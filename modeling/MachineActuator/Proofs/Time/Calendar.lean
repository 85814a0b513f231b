import MachineActuator.Time.Calendar
import Mathlib.Tactic.SplitIfs

/-! # Days and dates

Every day number stands for one date of the calendar (`isDate_ofDayNumber`) and is the number of
that date (`dayNumber_ofDayNumber`).  A date of an earlier year has a smaller number
(`dayNumber_lt_of_year_lt`), so a range of years is a range of day numbers.

Both functions count years from March and in eras of 400 years.  The bounds below are about one
era: `d` is a day of it and `y` the year that the day falls into. -/

namespace MachineActuator.Calendar

/-- A date of the calendar. -/
structure IsDate (year : Int) (month day : Nat) : Prop where
  month_pos : 1 ≤ month
  month_le : month ≤ 12
  day_pos : 1 ≤ day
  day_le : day ≤ monthLength year month

theorem IsDate.day_le_31 {year : Int} {month day : Nat} (h : IsDate year month day) :
    day ≤ 31 := by
  have hd := h.day_le
  unfold monthLength at hd
  split_ifs at hd <;> omega

/-! ### One era -/

section era
variable {d y : Int} (h0 : 0 ≤ d) (h1 : d < 146097)
  (hy : y = (d - d / 1460 + d / 36524 - d / 146096) / 365)
include h0 h1 hy

theorem yearOfEra_div_hundred : y / 100 = d / 36524 - d / 146096 := by
  have hc : d / 36524 = 0 ∨ d / 36524 = 1 ∨ d / 36524 = 2 ∨ d / 36524 = 3 ∨ d / 36524 = 4 := by
    omega
  rcases hc with hc | hc | hc | hc | hc <;> omega

theorem dayOfYear_bounds :
    0 ≤ d - (365 * y + y / 4 - y / 100) ∧ d - (365 * y + y / 4 - y / 100) ≤ 365 := by
  have hh := yearOfEra_div_hundred h0 h1 hy
  have hr : y % 4 = 0 ∨ y % 4 = 1 ∨ y % 4 = 2 ∨ y % 4 = 3 := by omega
  rcases hr with hr | hr | hr | hr <;> omega

/-- The last day of a year of 366 days is the 29th of February of a leap year. -/
theorem leap_of_dayOfYear (h : d - (365 * y + y / 4 - y / 100) = 365) :
    (y + 1) % 4 = 0 ∧ ((y + 1) % 100 ≠ 0 ∨ (y + 1) % 400 = 0) := by
  have hh := yearOfEra_div_hundred h0 h1 hy
  have hr : y % 4 = 0 ∨ y % 4 = 1 ∨ y % 4 = 2 ∨ y % 4 = 3 := by omega
  rcases hr with hr | hr | hr | hr <;> omega

end era

/-! ### The date of a day -/

/-- The parts that a day number is split into: era, year of the era, day of that year, month. -/
theorem ofDayNumber_eq (n : Int) : ∃ era y doy mp : Int,
    0 ≤ y ∧ y ≤ 399 ∧ 0 ≤ doy ∧ doy ≤ 365 ∧ mp = (5 * doy + 2) / 153 ∧
    n + 719468 = era * 146097 + (y * 365 + y / 4 - y / 100 + doy) ∧
    (doy = 365 → (y + 1) % 4 = 0 ∧ ((y + 1) % 100 ≠ 0 ∨ (y + 1) % 400 = 0)) ∧
    ofDayNumber n =
      (y + era * 400 + (if (if mp < 10 then mp + 3 else mp - 9) ≤ 2 then 1 else 0),
        (if mp < 10 then mp + 3 else mp - 9).toNat, (doy - (153 * mp + 2) / 5 + 1).toNat) := by
  have h0 : 0 ≤ n + 719468 - (n + 719468) / 146097 * 146097 := by omega
  have h1 : n + 719468 - (n + 719468) / 146097 * 146097 < 146097 := by omega
  generalize hd : n + 719468 - (n + 719468) / 146097 * 146097 = d at h0 h1
  have hb := dayOfYear_bounds h0 h1 rfl
  refine ⟨(n + 719468) / 146097, (d - d / 1460 + d / 36524 - d / 146096) / 365, _, _, ?_, ?_,
    hb.1, hb.2, rfl, ?_, leap_of_dayOfYear h0 h1 rfl, ?_⟩
  · omega
  · omega
  · omega
  · subst hd
    rfl

theorem isDate_ofDayNumber (n : Int) :
    IsDate (ofDayNumber n).1 (ofDayNumber n).2.1 (ofDayNumber n).2.2 := by
  obtain ⟨era, y, doy, mp, hy0, hy1, hd0, hd1, hmp, -, hleap, h⟩ := ofDayNumber_eq n
  have hfeb : isLeapYear (y + era * 400 + 1) = false → doy ≤ 364 := by
    intro hl
    simp only [isLeapYear, Bool.and_eq_false_iff, decide_eq_false_iff_not,
      Bool.or_eq_false_iff] at hl
    omega
  have hm : mp = 0 ∨ mp = 1 ∨ mp = 2 ∨ mp = 3 ∨ mp = 4 ∨ mp = 5 ∨ mp = 6 ∨ mp = 7 ∨ mp = 8 ∨
      mp = 9 ∨ mp = 10 ∨ mp = 11 := by omega
  rw [h]
  clear h hleap
  rcases hm with rfl | rfl | rfl | rfl | rfl | rfl | rfl | rfl | rfl | rfl | rfl | rfl
  -- February comes last; it alone has a length that depends on the year.
  case inr.inr.inr.inr.inr.inr.inr.inr.inr.inr.inr =>
    refine ⟨by simp, by simp, by simp; omega, ?_⟩
    cases hl : isLeapYear (y + era * 400 + 1) with
    | false =>
        have := hfeb hl
        simp [monthLength, hl]
        omega
    | true =>
        simp [monthLength, hl]
        omega
  all_goals
    refine ⟨by simp, by simp, by simp; omega, ?_⟩
    simp [monthLength]
    omega

theorem dayNumber_ofDayNumber (n : Int) :
    dayNumber (ofDayNumber n).1 (ofDayNumber n).2.1 (ofDayNumber n).2.2 = n := by
  obtain ⟨era, y, doy, mp, hy0, hy1, hd0, hd1, hmp, hn, -, h⟩ := ofDayNumber_eq n
  have hm : mp = 0 ∨ mp = 1 ∨ mp = 2 ∨ mp = 3 ∨ mp = 4 ∨ mp = 5 ∨ mp = 6 ∨ mp = 7 ∨ mp = 8 ∨
      mp = 9 ∨ mp = 10 ∨ mp = 11 := by omega
  rw [h]
  clear h
  rcases hm with rfl | rfl | rfl | rfl | rfl | rfl | rfl | rfl | rfl | rfl | rfl | rfl <;>
    simp [dayNumber] <;> omega

/-! ### The order of dates -/

/-- Days before the first of March of a year. -/
def marchDays (y : Int) : Int := y * 365 + y / 4 - y / 100 + y / 400

theorem marchDays_lt {a b : Int} (h : a < b) : marchDays a + 365 ≤ marchDays b := by
  unfold marchDays
  have h4 : a / 4 - a / 4 / 25 ≤ b / 4 - b / 4 / 25 := by omega
  omega

/-- January and February belong to the year that began in the March before. -/
theorem dayNumber_eq_marchDays {year : Int} {month day : Nat} (hd : IsDate year month day) :
    (∃ doy, 306 ≤ doy ∧ doy ≤ 367 ∧
      dayNumber year month day = marchDays (year - 1) + doy - 719468) ∨
    (∃ doy, 0 ≤ doy ∧ doy ≤ 305 ∧
      dayNumber year month day = marchDays year + doy - 719468) := by
  have hd2 := hd.day_le_31
  obtain ⟨hm0, hm1, hd0, -⟩ := hd
  by_cases h : month ≤ 2
  · refine Or.inl ⟨(153 * ((month + 9) % 12 : Int) + 2) / 5 + (day - 1), ?_, ?_, ?_⟩
    · omega
    · omega
    · simp only [dayNumber, h, if_true, marchDays]
      omega
  · refine Or.inr ⟨(153 * ((month + 9) % 12 : Int) + 2) / 5 + (day - 1), ?_, ?_, ?_⟩
    · omega
    · omega
    · simp only [dayNumber, h, if_false, marchDays]
      omega

theorem dayNumber_lt_of_year_lt {y₁ y₂ : Int} {m₁ d₁ m₂ d₂ : Nat} (h₁ : IsDate y₁ m₁ d₁)
    (h₂ : IsDate y₂ m₂ d₂) (h : y₁ < y₂) : dayNumber y₁ m₁ d₁ < dayNumber y₂ m₂ d₂ := by
  rcases dayNumber_eq_marchDays h₁ with ⟨u, hu0, hu1, hu⟩ | ⟨u, hu0, hu1, hu⟩ <;>
    rcases dayNumber_eq_marchDays h₂ with ⟨v, hv0, hv1, hv⟩ | ⟨v, hv0, hv1, hv⟩
  · have := marchDays_lt (show y₁ - 1 < y₂ - 1 by omega)
    omega
  · have := marchDays_lt (show y₁ - 1 < y₁ by omega)
    have := marchDays_lt h
    omega
  · rcases Int.lt_or_eq_of_le (show y₁ ≤ y₂ - 1 by omega) with hlt | rfl
    · have := marchDays_lt hlt
      omega
    · omega
  · have := marchDays_lt h
    omega

end MachineActuator.Calendar
