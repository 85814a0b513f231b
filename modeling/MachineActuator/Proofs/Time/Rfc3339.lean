import Mathlib
import MachineActuator.Proofs.Time.Calendar
import MachineActuator.Time.Rfc3339

/-! # Times read back

A time that is written reads back as the same instant (`read?_write`), and one that is cut to the
second reads back as the instant without its fraction (`read?_writeWhole`).  Both hold of the
instants that times can be (`Instant.Valid`), and only those are ever read (`valid_of_read?`).

The readers take their part off the front of a text, so each lemma about one of them is about a
written part in front of any rest that does not go on with a digit. -/

namespace MachineActuator

theorem bind_of_eq_some {α β : Type} {x : Option α} {a : α} {f : α → Option β} (h : x = some a) :
    (x >>= f) = f a := by
  rw [h]
  rfl

theorem toList_mark_append {mark : String} {c : Char} (h : mark.toList = [c]) (s : String) :
    (mark ++ s).toList = c :: s.toList := by
  rw [String.toList_append, h, List.singleton_append]

namespace Decimal

theorem toList_padded (width n : Nat) :
    (padded width n).toList =
      List.replicate (width - (Nat.toDigits 10 n).length) '0' ++ Nat.toDigits 10 n := by
  simp [padded]

theorem isDigit_of_mem_padded {width n : Nat} {c : Char} (h : c ∈ (padded width n).toList) :
    c.isDigit = true := by
  rw [toList_padded, List.mem_append] at h
  rcases h with h | h
  · rw [List.eq_of_mem_replicate h]; decide
  · exact Nat.isDigit_of_mem_toDigits (by decide) (by decide) h

theorem length_padded {width n : Nat} (hw : 0 < width) (h : n < 10 ^ width) :
    (padded width n).toList.length = width := by
  have hl := (Nat.length_toDigits_le_iff (by decide : 1 < 10) hw).mpr h
  rw [toList_padded, List.length_append, List.length_replicate]
  omega

end Decimal

namespace Rfc3339

open Decimal (padded)

/-! ### Digits -/

theorem valueOf_eq_ofDigitChars (ds : List Char) : valueOf ds = Nat.ofDigitChars 10 ds 0 := by
  unfold valueOf
  rw [Nat.ofDigitChars_eq_foldl]
  congr 1
  funext n c
  rw [Nat.mul_comm]

theorem valueOf_padded (width n : Nat) : valueOf (padded width n).toList = n := by
  rw [valueOf_eq_ofDigitChars, Decimal.toList_padded, Nat.ofDigitChars_append,
    Nat.ofDigitChars_replicate_zero, Nat.mul_zero, Nat.ofDigitChars_ten_toDigits]

theorem isDigit_toNat {c : Char} (h : c.isDigit = true) : 48 ≤ c.toNat ∧ c.toNat ≤ 57 := by
  simpa [Char.isDigit, UInt32.le_iff_toNat_le] using h

theorem not_isBlank_of_isDigit {c : Char} (h : c.isDigit = true) : isBlank c = false := by
  have h1 := isDigit_toNat h
  have hne : ∀ d : Char, d.toNat < 48 ∨ 57 < d.toNat → c ≠ d := by
    rintro d hd rfl
    omega
  have htab : ¬ c ≤ '\r' := by
    intro hle
    have : c.toNat ≤ 13 := by simpa [Char.le_def, UInt32.le_iff_toNat_le] using hle
    omega
  simp only [isBlank, Bool.or_eq_false_iff, Bool.and_eq_false_iff, decide_eq_false_iff_not,
    and_assoc]
  refine ⟨hne _ (by decide), Or.inr htab, hne _ (by decide), hne _ (by decide), ?_⟩
  omega

theorem skipBlanks_cons {c : Char} {cs : List Char} (h : isBlank c = false) :
    skipBlanks (c :: cs) = c :: cs := by
  simp [skipBlanks, h]

theorem takeDigits_exact {width : Nat} {ds : List Char} (rest : List Char)
    (hd : ∀ c ∈ ds, c.isDigit = true) (hl : ds.length = width) :
    takeDigits width (ds ++ rest) = (ds, rest) := by
  have h : (List.take width (ds ++ rest)).takeWhile Char.isDigit = ds := by
    rw [List.take_left' hl]
    exact List.takeWhile_eq_self_iff.mpr hd
  simp only [takeDigits, h, List.drop_left]

theorem takeDigits_stop {width : Nat} {ds : List Char} {c : Char} (rest : List Char)
    (hd : ∀ c ∈ ds, c.isDigit = true) (hl : ds.length ≤ width) (hc : c.isDigit = false) :
    takeDigits width (ds ++ c :: rest) = (ds, c :: rest) := by
  have h : (List.take width (ds ++ c :: rest)).takeWhile Char.isDigit = ds := by
    rw [List.take_append, List.take_of_length_le hl, List.takeWhile_append_of_pos hd]
    cases width - ds.length with
    | zero => simp
    | succ k => simp [hc]
  simp only [takeDigits, h, List.drop_left]

theorem number?_padded {width n : Nat} (hw : 0 < width) (h : n < 10 ^ width) (rest : List Char) :
    number? width ((padded width n).toList ++ rest) = some (n, rest) := by
  have hl := Decimal.length_padded hw h
  have hd : ∀ c ∈ (padded width n).toList, c.isDigit = true :=
    fun c hc => Decimal.isDigit_of_mem_padded hc
  have hv := valueOf_padded width n
  generalize (padded width n).toList = ds at hl hd hv
  have hblank : skipBlanks (ds ++ rest) = ds ++ rest := by
    cases ds with
    | nil => simp at hl; omega
    | cons c ds => exact skipBlanks_cons (not_isBlank_of_isDigit (hd c (by simp)))
  have hne : ds.isEmpty = false := by
    cases ds with
    | nil => simp at hl; omega
    | cons c ds => rfl
  simp only [number?, hblank, takeDigits_exact rest hd hl, hne, hv]
  rfl

theorem mark?_cons {c : Char} (h : isBlank c = false) (rest : List Char) :
    mark? c (c :: rest) = some rest := by
  simp [mark?, skipBlanks_cons h]

/-! ### Years and fractions -/

theorem year?_signed {n : Nat} (f : Int → Int) (rest : List Char) :
    year?.signed ((padded 4 n).toList ++ '-' :: rest) f = some (f n, '-' :: rest) := by
  have hd : ∀ c ∈ (padded 4 n).toList, c.isDigit = true :=
    fun c hc => Decimal.isDigit_of_mem_padded hc
  have hv := valueOf_padded 4 n
  have hne : (padded 4 n).toList.isEmpty = false := by
    simp [Decimal.toList_padded, Nat.toDigits_ne_nil]
  generalize (padded 4 n).toList = ds at hd hv hne
  have htake : takeDigits (ds ++ '-' :: rest).length (ds ++ '-' :: rest) = (ds, '-' :: rest) :=
    takeDigits_stop rest hd (by simp) rfl
  simp only [year?.signed, htake, hne, hv]
  rfl

theorem year?_eq_number? {c : Char} (h : c.isDigit = true) (cs : List Char) :
    year? (c :: cs) = (number? 4 (c :: cs)).map fun (n, rest) => ((n : Int), rest) := by
  have hm : c ≠ '-' := by rintro rfl; simp at h
  have hp : c ≠ '+' := by rintro rfl; simp at h
  unfold year?
  rw [skipBlanks_cons (not_isBlank_of_isDigit h)]
  split
  · next heq => exact absurd (List.cons.inj heq).1 hm
  · next heq => exact absurd (List.cons.inj heq).1 hp
  · rfl

theorem year?_writeYear (year : Int) (rest : List Char) :
    year? ((writeYear year).toList ++ '-' :: rest) = some (year, '-' :: rest) := by
  unfold writeYear
  split_ifs with h h0
  · have hn : year.toNat < 10 ^ 4 := by omega
    have hy : (year.toNat : Int) = year := by omega
    have hnum := number?_padded (by decide) hn ('-' :: rest)
    have hlen := Decimal.length_padded (by decide) hn
    have hd : ∀ c ∈ (padded 4 year.toNat).toList, c.isDigit = true :=
      fun c hc => Decimal.isDigit_of_mem_padded hc
    cases hds : (padded 4 year.toNat).toList with
    | nil => simp [hds] at hlen
    | cons c ds =>
      rw [hds] at hnum hd
      rw [List.cons_append, year?_eq_number? (hd c (by simp)), ← List.cons_append, hnum]
      simp [hy]
  · have hy : -(year.natAbs : Int) = year := by omega
    have hsigned := year?_signed (n := year.natAbs) (fun n => -n) rest
    rw [hy] at hsigned
    rw [toList_mark_append rfl, List.cons_append]
    exact hsigned
  · have hy : (year.natAbs : Int) = year := by omega
    have hsigned := year?_signed (n := year.natAbs) (fun n => n) rest
    rw [hy] at hsigned
    rw [toList_mark_append rfl, List.cons_append]
    exact hsigned

theorem fraction?_padded {width n : Nat} (hw : 0 < width) (hw' : width ≤ 9)
    (h : n < 10 ^ width) :
    fraction? ('.' :: ((padded width n).toList ++ ['Z'])) = some (n * 10 ^ (9 - width), ['Z']) := by
  have hd : ∀ c ∈ (padded width n).toList, c.isDigit = true :=
    fun c hc => Decimal.isDigit_of_mem_padded hc
  have hl := Decimal.length_padded hw h
  have hv := valueOf_padded width n
  generalize (padded width n).toList = ds at hd hl hv
  have htake : takeDigits 9 (ds ++ ['Z']) = (ds, ['Z']) :=
    takeDigits_stop [] hd (by omega) rfl
  have hne : ds.isEmpty = false := by
    cases ds with
    | nil => simp at hl; omega
    | cons c ds => rfl
  simp only [fraction?, htake, hne, hv, hl]
  simp

theorem fraction?_write {n : Nat} (h : n < 1000000000) :
    fraction? ((writeFraction n).toList ++ ['Z']) = some (n, ['Z']) := by
  unfold writeFraction
  split_ifs with h0 h1 h2
  · subst h0; rfl
  · have hn : n / 1000000 < 10 ^ 3 := by omega
    have he : n / 1000000 * 10 ^ (9 - 3) = n := by omega
    have hf := fraction?_padded (by decide) (by decide) hn
    rw [he] at hf
    rw [toList_mark_append rfl, List.cons_append]
    exact hf
  · have hn : n / 1000 < 10 ^ 6 := by omega
    have he : n / 1000 * 10 ^ (9 - 6) = n := by omega
    have hf := fraction?_padded (by decide) (by decide) hn
    rw [he] at hf
    rw [toList_mark_append rfl, List.cons_append]
    exact hf
  · have hn : n < 10 ^ 9 := by omega
    have he : n * 10 ^ (9 - 9) = n := by omega
    have hf := fraction?_padded (by decide) (by decide) hn
    rw [he] at hf
    rw [toList_mark_append rfl, List.cons_append]
    exact hf

end Rfc3339

/-! ### Instants -/

/-- An instant that times can be: its day lies within the range of years, and a leap second is the
last one of a minute. -/
structure Instant.Valid (t : Instant) : Prop where
  first_le : Calendar.dayNumber Rfc3339.firstYear 1 1 ≤ t.seconds / Instant.daySeconds
  le_last : t.seconds / Instant.daySeconds ≤ Calendar.dayNumber Rfc3339.lastYear 12 31
  nanos_lt : t.nanos < 2000000000
  leap_last : t.isLeap = true → t.seconds % 60 = 59

/-- The instant cut to the second; a leap second stays one. -/
def Instant.wholeSecond (t : Instant) : Instant :=
  { t with nanos := if t.isLeap then 1000000000 else 0 }

namespace Rfc3339

open Decimal (padded)

/-! ### Date and time of day -/

theorem inRange_eq_some {t : Instant}
    (h0 : Calendar.dayNumber Rfc3339.firstYear 1 1 ≤ t.seconds / Instant.daySeconds)
    (h1 : t.seconds / Instant.daySeconds ≤ Calendar.dayNumber Rfc3339.lastYear 12 31) :
    inRange t = some t := if_pos ⟨h0, h1⟩

/-- The text of a date and a time of day is read as these. -/
theorem read?_clock {year : Int} {month day hour minute second nanos : Nat} {fraction : String}
    (hd : Calendar.IsDate year month day) (hy0 : firstYear ≤ year) (hy1 : year ≤ lastYear)
    (hh : hour ≤ 23) (hm : minute ≤ 59) (hs : second ≤ 60)
    (hf : fraction? (fraction.toList ++ ['Z']) = some (nanos, ['Z'])) :
    read? (writeYear year ++ "-" ++ padded 2 month ++ "-" ++ padded 2 day ++ "T" ++
        padded 2 hour ++ ":" ++ padded 2 minute ++ ":" ++ padded 2 second ++ fraction ++ "Z") =
      inRange
        { seconds := Calendar.dayNumber year month day * Instant.daySeconds +
            (hour * 3600 + minute * 60 + min second 59 : Nat)
          nanos := if second = 60 then nanos + 1000000000 else nanos } := by
  have hd2 := hd.day_le_31
  obtain ⟨hm0, hm1, hd0, hd1⟩ := hd
  have hnum {n : Nat} (h : n < 100) (rest : List Char) :
      number? 2 ((padded 2 n).toList ++ rest) = some (n, rest) := number?_padded (by decide) h rest
  have hz : offset? ['Z'] = some (0, []) := rfl
  have hdash (rest : List Char) : mark? '-' ('-' :: rest) = some rest := mark?_cons rfl rest
  have hcolon (rest : List Char) : mark? ':' (':' :: rest) = some rest := mark?_cons rfl rest
  have htext : (writeYear year ++ "-" ++ padded 2 month ++ "-" ++ padded 2 day ++ "T" ++
        padded 2 hour ++ ":" ++ padded 2 minute ++ ":" ++ padded 2 second ++ fraction ++
        "Z").toList =
      (writeYear year).toList ++ '-' :: ((padded 2 month).toList ++ '-' :: ((padded 2 day).toList ++
        'T' :: ((padded 2 hour).toList ++ ':' :: ((padded 2 minute).toList ++
          ':' :: ((padded 2 second).toList ++ (fraction.toList ++ ['Z'])))))) := by
    simp only [String.toList_append, String.reduceToList, List.append_assoc, List.cons_append,
      List.nil_append]
  unfold read?
  rw [htext]
  -- one line for every part that is read, in the order of the text
  refine (bind_of_eq_some (year?_writeYear _ _)).trans ?_
  refine (bind_of_eq_some (hdash _)).trans ?_
  refine (bind_of_eq_some (hnum (by omega) _)).trans ?_
  refine (bind_of_eq_some (hdash _)).trans ?_
  refine (bind_of_eq_some (hnum (by omega) _)).trans ?_
  refine (bind_of_eq_some rfl).trans ?_
  refine (bind_of_eq_some (hnum (by omega) _)).trans ?_
  refine (bind_of_eq_some (hcolon _)).trans ?_
  refine (bind_of_eq_some (hnum (by omega) _)).trans ?_
  refine (bind_of_eq_some (hcolon _)).trans ?_
  refine (bind_of_eq_some (hnum (by omega) _)).trans ?_
  refine (bind_of_eq_some hf).trans ?_
  refine (bind_of_eq_some hz).trans ?_
  dsimp only
  rw [if_neg (by simp [skipBlanks]), if_neg (by omega), if_neg (by omega), if_neg (by omega),
    Int.sub_zero]

theorem year_bounds {t : Instant} (ht : t.Valid) :
    firstYear ≤ (Calendar.ofDayNumber (t.seconds / Instant.daySeconds)).1 ∧
      (Calendar.ofDayNumber (t.seconds / Instant.daySeconds)).1 ≤ lastYear := by
  have hdate := Calendar.isDate_ofDayNumber (t.seconds / Instant.daySeconds)
  have hday := Calendar.dayNumber_ofDayNumber (t.seconds / Instant.daySeconds)
  have hfirst := ht.first_le
  have hlast := ht.le_last
  rw [← hday] at hfirst hlast
  constructor
  · by_contra hlt
    have := Calendar.dayNumber_lt_of_year_lt hdate
      (show Calendar.IsDate firstYear 1 1 by constructor <;> decide) (by omega)
    omega
  · by_contra hlt
    have := Calendar.dayNumber_lt_of_year_lt
      (show Calendar.IsDate lastYear 12 31 by constructor <;> decide) hdate (by omega)
    omega

/-- Day and time of day make up the seconds; a leap second repeats the second before it. -/
theorem seconds_eq_clock {t : Instant} (ht : t.Valid) :
    t.seconds / Instant.daySeconds * Instant.daySeconds +
      ((t.seconds % Instant.daySeconds).toNat / 3600 * 3600 +
        (t.seconds % Instant.daySeconds).toNat / 60 % 60 * 60 +
        min ((t.seconds % Instant.daySeconds).toNat % 60 + if t.isLeap then 1 else 0) 59 : Nat) =
      t.seconds := by
  have hleap := ht.leap_last
  unfold Instant.daySeconds
  split_ifs with hl
  · have := hleap hl
    omega
  · omega

theorem clock_eq_sixty_iff {t : Instant} (ht : t.Valid) :
    (t.seconds % Instant.daySeconds).toNat % 60 + (if t.isLeap then 1 else 0) = 60 ↔
      t.isLeap = true := by
  have hleap := ht.leap_last
  unfold Instant.daySeconds
  split_ifs with hl
  · have := hleap hl
    refine ⟨fun _ => hl, fun _ => ?_⟩
    omega
  · refine ⟨fun h => ?_, fun h => absurd h hl⟩
    omega

/-- What is written reads back with the fraction that was written. -/
theorem read?_writeSeconds {t : Instant} (ht : t.Valid) {fraction : String} {nanos : Nat}
    (hf : fraction? (fraction.toList ++ ['Z']) = some (nanos, ['Z'])) :
    read? (writeSeconds t ++ fraction ++ "Z") =
      some { t with nanos := if t.isLeap then nanos + 1000000000 else nanos } := by
  have hs : (t.seconds % Instant.daySeconds).toNat < 86400 := by
    unfold Instant.daySeconds
    omega
  have hread := read?_clock (Calendar.isDate_ofDayNumber (t.seconds / Instant.daySeconds))
    (year_bounds ht).1 (year_bounds ht).2
    (show (t.seconds % Instant.daySeconds).toNat / 3600 ≤ 23 by omega)
    (show (t.seconds % Instant.daySeconds).toNat / 60 % 60 ≤ 59 by omega)
    (show (t.seconds % Instant.daySeconds).toNat % 60 + (if t.isLeap then 1 else 0) ≤ 60 by
      split_ifs <;> omega) hf
  rw [Calendar.dayNumber_ofDayNumber, seconds_eq_clock ht] at hread
  simp only [clock_eq_sixty_iff ht] at hread
  exact hread.trans (inRange_eq_some ht.first_le ht.le_last)

theorem read?_write {t : Instant} (ht : t.Valid) : read? (write t) = some t := by
  have hn := ht.nanos_lt
  refine (read?_writeSeconds ht (fraction?_write (Nat.mod_lt _ (by decide)))).trans ?_
  obtain ⟨seconds, nanos⟩ := t
  have hl : (Instant.mk seconds nanos).isLeap = decide (1000000000 ≤ nanos) := rfl
  simp only [hl, decide_eq_true_eq, Option.some.injEq, Instant.mk.injEq, true_and] at hn ⊢
  split_ifs <;> omega

theorem read?_writeWhole {t : Instant} (ht : t.Valid) :
    read? (writeWhole t) = some t.wholeSecond := by
  have h := read?_writeSeconds ht (show fraction? ("".toList ++ ['Z']) = some (0, ['Z']) from rfl)
  simpa [writeWhole, Instant.wholeSecond] using h

/-! ### Only instants that times can be are read -/

theorem hoursMinutes?_mod {cs rest : List Char} {o : Int} (h : hoursMinutes? cs = some (o, rest)) :
    o % 60 = 0 := by
  simp only [hoursMinutes?, Option.bind_eq_bind, Option.bind_eq_some_iff] at h
  obtain ⟨⟨hours, cs'⟩, -, ⟨minutes, cs''⟩, -, h⟩ := h
  split_ifs at h
  simp only [Option.some.injEq, Prod.mk.injEq] at h
  omega

theorem within_eq_some {p q : Int × List Char} (h : offset?.within p = some q) : p = q := by
  unfold offset?.within at h
  split_ifs at h
  exact Option.some.inj h

theorem offset?_mod {cs rest : List Char} {o : Int} (h : offset? cs = some (o, rest)) :
    o % 60 = 0 := by
  unfold offset? at h
  split at h
  case h_1 | h_2 =>
    simp only [Option.some.injEq, Prod.mk.injEq] at h
    omega
  case h_3 =>
    simp only [Option.bind_eq_bind, Option.bind_eq_some_iff] at h
    obtain ⟨p, hp, h⟩ := h
    rw [within_eq_some h] at hp
    exact hoursMinutes?_mod hp
  case h_4 | h_5 =>
    simp only [Option.bind_eq_bind, Option.bind_eq_some_iff, Option.map_eq_some_iff] at h
    obtain ⟨p, ⟨⟨n, cs'⟩, hn, rfl⟩, h⟩ := h
    have hmod := hoursMinutes?_mod hn
    have heq := within_eq_some h
    simp only [Prod.mk.injEq] at heq
    omega
  case h_6 =>
    split_ifs at h
    simp only [Option.some.injEq, Prod.mk.injEq] at h
    omega
  case h_7 => simp at h

theorem foldl_digits_lt {ds : List Char} (h : ∀ c ∈ ds, c.isDigit = true) (n : Nat) :
    ds.foldl (fun n c => n * 10 + (c.toNat - '0'.toNat)) n < (n + 1) * 10 ^ ds.length := by
  induction ds generalizing n with
  | nil => simp
  | cons c ds ih =>
    have hc : c.toNat - '0'.toNat ≤ 9 := by
      have := isDigit_toNat (h c (by simp))
      simp only [Char.reduceToNat]
      omega
    have hmul : (n * 10 + (c.toNat - '0'.toNat) + 1) * 10 ^ ds.length ≤
        (n + 1) * 10 * 10 ^ ds.length := Nat.mul_le_mul_right _ (by omega)
    calc
      _ < (n * 10 + (c.toNat - '0'.toNat) + 1) * 10 ^ ds.length :=
        ih (fun c hc => h c (List.mem_cons_of_mem _ hc)) _
      _ ≤ (n + 1) * 10 * 10 ^ ds.length := hmul
      _ = (n + 1) * 10 ^ (c :: ds).length := by
        rw [List.length_cons, Nat.pow_succ]
        ring

theorem fraction?_lt {cs rest : List Char} {n : Nat} (h : fraction? cs = some (n, rest)) :
    n < 1000000000 := by
  unfold fraction? at h
  split at h
  · next cs =>
    have hd : ∀ c ∈ (takeDigits 9 cs).1, c.isDigit = true := fun c hc =>
      List.mem_takeWhile_imp hc
    have hl : (takeDigits 9 cs).1.length ≤ 9 :=
      (List.takeWhile_sublist _).length_le.trans (List.length_take_le _ _)
    have hlt := foldl_digits_lt hd 0
    simp only at h
    split_ifs at h
    simp only [Option.some.injEq, Prod.mk.injEq] at h
    rw [← h.1]
    generalize (takeDigits 9 cs).1 = ds at hl hlt ⊢
    have hv : valueOf ds < 10 ^ ds.length := by simpa [valueOf] using hlt
    calc
      _ < 10 ^ ds.length * 10 ^ (9 - ds.length) :=
        Nat.mul_lt_mul_of_pos_right hv (Nat.pow_pos (by decide))
      _ = 1000000000 := by
        rw [← Nat.pow_add, Nat.add_sub_cancel' hl]
  · simp only [Option.some.injEq, Prod.mk.injEq] at h
    omega

theorem valid_of_inRange {t u : Instant} (hn : t.nanos < 2000000000)
    (hl : t.isLeap = true → t.seconds % 60 = 59) (h : inRange t = some u) : u.Valid := by
  simp only [inRange] at h
  split_ifs at h with hr
  obtain rfl := Option.some.inj h
  exact ⟨hr.1, hr.2, hn, hl⟩

theorem valid_of_read? {s : String} {t : Instant} (h : read? s = some t) : t.Valid := by
  unfold read? at h
  obtain ⟨⟨year, c0⟩, -, h⟩ := Option.bind_eq_some_iff.mp h
  obtain ⟨c1, -, h⟩ := Option.bind_eq_some_iff.mp h
  obtain ⟨⟨month, c2⟩, -, h⟩ := Option.bind_eq_some_iff.mp h
  obtain ⟨c3, -, h⟩ := Option.bind_eq_some_iff.mp h
  obtain ⟨⟨day, c4⟩, -, h⟩ := Option.bind_eq_some_iff.mp h
  dsimp only at h
  split at h
  case h_4 => cases h
  all_goals
    obtain ⟨c5, -, h⟩ := Option.bind_eq_some_iff.mp h
    obtain ⟨⟨hour, c6⟩, -, h⟩ := Option.bind_eq_some_iff.mp h
    obtain ⟨c7, -, h⟩ := Option.bind_eq_some_iff.mp h
    obtain ⟨⟨minute, c8⟩, -, h⟩ := Option.bind_eq_some_iff.mp h
    obtain ⟨c9, -, h⟩ := Option.bind_eq_some_iff.mp h
    obtain ⟨⟨second, c10⟩, -, h⟩ := Option.bind_eq_some_iff.mp h
    obtain ⟨⟨nanos, c11⟩, hf, h⟩ := Option.bind_eq_some_iff.mp h
    obtain ⟨⟨offset, c12⟩, ho, h⟩ := Option.bind_eq_some_iff.mp h
    have hn := fraction?_lt hf
    have hz := offset?_mod ho
    dsimp only at h
    split_ifs at h with h1 h2 h3 h4 h5
    · refine valid_of_inRange (show nanos + 1000000000 < 2000000000 by omega) (fun _ => ?_) h
      simp only [h5, Instant.daySeconds]
      omega
    · refine valid_of_inRange (show nanos < 2000000000 by omega) (fun hl => ?_) h
      simp only [Instant.isLeap, decide_eq_true_eq] at hl
      omega

end Rfc3339
end MachineActuator
