import Mathlib
import MachineActuator.Binary64

/-! # Rounding to binary64

Rounding lands within half a unit of the fraction that is rounded (`close_of_nearest?`), and within
one part of `2 ^ 53` of it when that is not tiny (`close_of_one_le`); it fails only for fractions
from `overflow` on (`exists_nearest?`).  So a decimal of at most 64 bits is read when its value,
with two roundings on the way, stays below that bound (`exists_ofDecimal?`). -/

namespace MachineActuator.Binary64

/-! ### Fractions -/

theorem two_zpow_succ (e : ℤ) : (2 : ℚ) ^ (e + 1) = 2 * 2 ^ e := by
  rw [zpow_add_one₀ two_ne_zero, mul_comm]

theorem two_zpow_le {e f : ℤ} (h : e ≤ f) : (2 : ℚ) ^ e ≤ 2 ^ f :=
  zpow_le_zpow_right₀ one_le_two h

theorem scale_ratio (num : ℕ) {den : ℕ} (hden : 0 < den) (e : ℤ) :
    0 < (scale num den e).2 ∧
      ((scale num den e).1 : ℚ) / (scale num den e).2 = (num : ℚ) / den / 2 ^ e := by
  cases e with
  | ofNat k =>
    refine ⟨Nat.mul_pos hden (Nat.pow_pos (by decide)), ?_⟩
    simp only [scale, Nat.pow_eq, Nat.cast_mul, Nat.cast_pow, Nat.cast_ofNat, Int.ofNat_eq_natCast,
      zpow_natCast, div_div]
  | negSucc k =>
    refine ⟨hden, ?_⟩
    simp only [scale, Nat.pow_eq, Nat.cast_mul, Nat.cast_pow, Nat.cast_ofNat, zpow_negSucc]
    field_simp

theorem scaleTen_ratio (num : ℕ) {den : ℕ} (hden : 0 < den) (e : ℤ) :
    0 < (scaleTen num den e).2 ∧
      ((scaleTen num den e).1 : ℚ) / (scaleTen num den e).2 = (num : ℚ) / den * 10 ^ e := by
  cases e with
  | ofNat k =>
    refine ⟨hden, ?_⟩
    simp only [scaleTen, Nat.pow_eq, Nat.cast_mul, Nat.cast_pow, Nat.cast_ofNat,
      Int.ofNat_eq_natCast, zpow_natCast]
    ring
  | negSucc k =>
    refine ⟨Nat.mul_pos hden (Nat.pow_pos (by decide)), ?_⟩
    simp only [scaleTen, Nat.pow_eq, Nat.cast_mul, Nat.cast_pow, Nat.cast_ofNat, zpow_negSucc]
    field_simp

/-! ### Rounding to an integer -/

theorem roundDiv_bounds (num : ℕ) {den : ℕ} (hden : 0 < den) :
    2 * (roundDiv num den * den) ≤ 2 * num + den ∧
      2 * num ≤ 2 * (roundDiv num den * den) + den := by
  have hsplit := Nat.div_add_mod num den
  have hrest := Nat.mod_lt num hden
  have hnext : (num / den + 1) * den = den * (num / den) + den := by ring
  have hsame : num / den * den = den * (num / den) := Nat.mul_comm _ _
  unfold roundDiv
  dsimp only
  split_ifs
  · omega
  · omega
  · obtain heven | hodd := Nat.mod_two_eq_zero_or_one (num / den)
    · rw [heven, Nat.add_zero]
      omega
    · rw [hodd]
      omega

theorem roundDiv_close (num : ℕ) {den : ℕ} (hden : 0 < den) :
    |(roundDiv num den : ℚ) - num / den| ≤ 1 / 2 := by
  obtain ⟨hle, hge⟩ := roundDiv_bounds num hden
  have hpos : (0 : ℚ) < den := by exact_mod_cast hden
  have hle' : 2 * ((roundDiv num den : ℚ) * den) ≤ 2 * num + den := by exact_mod_cast hle
  have hge' : 2 * (num : ℚ) ≤ 2 * ((roundDiv num den : ℚ) * den) + den := by exact_mod_cast hge
  have hnum : (num : ℚ) = num / den * den := by field_simp
  rw [abs_le]
  constructor
  · nlinarith
  · nlinarith

/-! ### The exponent -/

theorem log2_bounds {n : ℕ} (hn : 0 < n) :
    (2 : ℚ) ^ (Nat.log2 n : ℤ) ≤ n ∧ (n : ℚ) < 2 ^ ((Nat.log2 n : ℤ) + 1) := by
  have hle := Nat.log2_self_le hn.ne'
  have hlt := Nat.lt_log2_self (n := n)
  constructor
  · rw [zpow_natCast]
    exact_mod_cast hle
  · rw [← Nat.cast_succ, zpow_natCast]
    exact_mod_cast hlt

/-- The exponent that the number of binary digits suggests is right or one too large. -/
theorem ratio_bounds {num den : ℕ} (hnum : 0 < num) (hden : 0 < den) :
    (2 : ℚ) ^ 52 * 2 ^ ((Nat.log2 num : ℤ) - Nat.log2 den - 52 - 1) ≤ (num : ℚ) / den ∧
      (num : ℚ) / den < 2 ^ 53 * 2 ^ ((Nat.log2 num : ℤ) - Nat.log2 den - 52) := by
  obtain ⟨hnumLe, hnumLt⟩ := log2_bounds hnum
  obtain ⟨hdenLe, hdenLt⟩ := log2_bounds hden
  have hpos : (0 : ℚ) < den := by exact_mod_cast hden
  have hpow (k : ℕ) (e : ℤ) : (2 : ℚ) ^ k * 2 ^ e = 2 ^ ((k : ℤ) + e) := by
    rw [zpow_add₀ two_ne_zero, zpow_natCast]
  rw [hpow, hpow, le_div_iff₀ hpos, div_lt_iff₀ hpos]
  constructor
  · calc (2 : ℚ) ^ (((52 : ℕ) : ℤ) + ((Nat.log2 num : ℤ) - Nat.log2 den - 52 - 1)) * den
        ≤ 2 ^ (((52 : ℕ) : ℤ) + ((Nat.log2 num : ℤ) - Nat.log2 den - 52 - 1)) *
            2 ^ ((Nat.log2 den : ℤ) + 1) := by gcongr
      _ = 2 ^ (Nat.log2 num : ℤ) := by
        rw [← zpow_add₀ two_ne_zero]
        congr 1
        push_cast
        ring
      _ ≤ num := hnumLe
  · calc (num : ℚ) < 2 ^ ((Nat.log2 num : ℤ) + 1) := hnumLt
      _ = 2 ^ (((53 : ℕ) : ℤ) + ((Nat.log2 num : ℤ) - Nat.log2 den - 52)) *
            2 ^ (Nat.log2 den : ℤ) := by
        rw [← zpow_add₀ two_ne_zero]
        congr 1
        push_cast
        ring
      _ ≤ 2 ^ (((53 : ℕ) : ℤ) + ((Nat.log2 num : ℤ) - Nat.log2 den - 52)) * den := by gcongr

/-- The exponent is the least one or gives the fraction a mantissa of 53 bits. -/
theorem exponentOf_bounds {num den : ℕ} (hnum : 0 < num) (hden : 0 < den) :
    -1074 ≤ exponentOf num den ∧ (num : ℚ) / den < 2 ^ 53 * 2 ^ exponentOf num den ∧
      (exponentOf num den = -1074 ∨ 2 ^ 52 * 2 ^ exponentOf num den ≤ (num : ℚ) / den) := by
  obtain ⟨hle, hlt⟩ := ratio_bounds hnum hden
  generalize he : (Nat.log2 num : ℤ) - Nat.log2 den - 52 = e at hle hlt
  obtain ⟨hpos, hratio⟩ := scale_ratio num hden e
  have htest : (scale num den e).1 < Nat.pow 2 52 * (scale num den e).2 ↔
      (num : ℚ) / den < 2 ^ 52 * 2 ^ e := by
    have hpos' : (0 : ℚ) < (scale num den e).2 := by exact_mod_cast hpos
    rw [← div_lt_iff₀ (by positivity), ← hratio, div_lt_iff₀ hpos']
    exact_mod_cast Iff.rfl
  -- the exponent before the least one is taken into account
  obtain ⟨e', he', hle', hlt'⟩ : ∃ e', exponentOf num den = max e' (-1074) ∧
      (2 : ℚ) ^ 52 * 2 ^ e' ≤ (num : ℚ) / den ∧ (num : ℚ) / den < 2 ^ 53 * 2 ^ e' := by
    by_cases hsmall : (scale num den e).1 < Nat.pow 2 52 * (scale num den e).2
    · refine ⟨e - 1, ?_, hle, ?_⟩
      · unfold exponentOf
        simp only [he, hsmall, if_true]
      · have hhalf : (2 : ℚ) ^ e = 2 * 2 ^ (e - 1) := by
          rw [mul_comm, ← zpow_add_one₀ two_ne_zero, sub_add_cancel]
        have := htest.mp hsmall
        rw [hhalf] at this
        linarith
    · refine ⟨e, ?_, not_lt.mp fun h => hsmall (htest.mpr h), hlt⟩
      unfold exponentOf
      simp only [he, hsmall, if_false]
  rw [he']
  obtain hleast | hleast := le_total e' (-1074)
  · rw [max_eq_right hleast]
    refine ⟨le_rfl, hlt'.trans_le ?_, .inl rfl⟩
    have hmono : (2 : ℚ) ^ e' ≤ 2 ^ (-1074 : ℤ) := two_zpow_le hleast
    gcongr
  · rw [max_eq_left hleast]
    exact ⟨hleast, hlt', .inr hle'⟩

/-! ### Rounding to a mantissa and an exponent -/

/-- Half a unit of the largest exponent. -/
def halfUnit : ℚ := 2 ^ (970 : ℤ)

theorem halfUnit_pos : 0 < halfUnit := zpow_pos two_pos _

theorem two_zpow_most : (2 : ℚ) ^ (971 : ℤ) = 2 * halfUnit := two_zpow_succ 970

/-- The least magnitude that is too large: half a unit above the largest finite value. -/
def overflow : ℚ := (2 ^ 54 - 1) * halfUnit

/-- What rounding comes to before the carry: a mantissa of at most `2 ^ 53`. -/
theorem nearest?_eq {num den : ℕ} (hnum : 0 < num) (hden : 0 < den) :
    ∃ (m : ℕ) (e : ℤ), m ≤ 2 ^ 53 ∧ -1074 ≤ e ∧ |(m : ℚ) * 2 ^ e - num / den| ≤ 2 ^ e / 2 ∧
      (e = -1074 ∨ 2 ^ 52 * 2 ^ e ≤ (num : ℚ) / den) ∧
      nearest? num den =
        if m = 2 ^ 53 then if 971 < e + 1 then none else some (2 ^ 52, e + 1)
        else if 971 < e then none else some (m, e) := by
  obtain ⟨hleast, hlt, hcase⟩ := exponentOf_bounds hnum hden
  obtain ⟨hpos, hratio⟩ := scale_ratio num hden (exponentOf num den)
  have hclose := roundDiv_close (scale num den (exponentOf num den)).1 hpos
  have hunit : (0 : ℚ) < 2 ^ exponentOf num den := by positivity
  rw [hratio] at hclose
  refine ⟨roundDiv (scale num den (exponentOf num den)).1 (scale num den (exponentOf num den)).2,
    exponentOf num den, ?_, hleast, ?_, hcase, ?_⟩
  · have hquotient : (num : ℚ) / den / 2 ^ exponentOf num den < 2 ^ 53 :=
      (div_lt_iff₀ hunit).mpr hlt
    have hbelow : (roundDiv (scale num den (exponentOf num den)).1
        (scale num den (exponentOf num den)).2 : ℚ) < 2 ^ 53 + 1 := by
      linarith [(abs_le.mp hclose).2]
    exact Nat.lt_succ_iff.mp (by exact_mod_cast hbelow)
  · have hsplit : (roundDiv (scale num den (exponentOf num den)).1
        (scale num den (exponentOf num den)).2 : ℚ) * 2 ^ exponentOf num den - num / den =
        ((roundDiv (scale num den (exponentOf num den)).1
          (scale num den (exponentOf num den)).2 : ℚ) - num / den / 2 ^ exponentOf num den) *
            2 ^ exponentOf num den := by
      field_simp
    rw [hsplit, abs_mul, abs_of_pos hunit]
    calc _ ≤ 1 / 2 * (2 : ℚ) ^ exponentOf num den := by gcongr
      _ = 2 ^ exponentOf num den / 2 := by ring
  · unfold nearest?
    rw [if_neg hnum.ne']
    simp only [Nat.pow_eq]
    split_ifs <;> rfl

theorem close_of_nearest? {num den : ℕ} (hnum : 0 < num) (hden : 0 < den) {m : ℕ} {e : ℤ}
    (h : nearest? num den = some (m, e)) :
    (m < 2 ^ 53 ∧ -1074 ≤ e ∧ e ≤ 971) ∧ |(m : ℚ) * 2 ^ e - num / den| ≤ 2 ^ e / 2 ∧
      (1 ≤ (num : ℚ) / den → |(m : ℚ) * 2 ^ e - num / den| ≤ num / den / 2 ^ 53) := by
  obtain ⟨m', e', hle, hleast, hclose, hcase, hnearest⟩ := nearest?_eq hnum hden
  have hrelative (hone : 1 ≤ (num : ℚ) / den) :
      |(m' : ℚ) * 2 ^ e' - num / den| ≤ num / den / 2 ^ 53 := by
    refine hclose.trans ?_
    obtain rfl | hlarge := hcase
    · calc (2 : ℚ) ^ (-1074 : ℤ) / 2 ≤ 2 ^ (-1074 : ℤ) := half_le_self (by positivity)
        _ ≤ 2 ^ (-53 : ℤ) := two_zpow_le (by decide)
        _ = 1 / 2 ^ 53 := by norm_num
        _ ≤ num / den / 2 ^ 53 := by gcongr
    · rw [div_le_div_iff₀ two_pos (by positivity)]
      linarith
  rw [h] at hnearest
  split_ifs at hnearest with hcarry htop htop
  · obtain ⟨rfl, rfl⟩ := Prod.mk.inj (Option.some.inj hnearest)
    subst hcarry
    have hsame : ((2 ^ 52 : ℕ) : ℚ) * 2 ^ (e' + 1) = ((2 ^ 53 : ℕ) : ℚ) * 2 ^ e' := by
      rw [two_zpow_succ]
      push_cast
      ring
    have hunit : (2 : ℚ) ^ e' ≤ 2 ^ (e' + 1) := two_zpow_le (by omega)
    rw [hsame]
    exact ⟨⟨by norm_num, by omega, by omega⟩, hclose.trans (by linarith), hrelative⟩
  · obtain ⟨rfl, rfl⟩ := Prod.mk.inj (Option.some.inj hnearest)
    exact ⟨⟨lt_of_le_of_ne hle hcarry, hleast, not_lt.mp htop⟩, hclose, hrelative⟩

theorem exists_nearest? {num den : ℕ} (hden : 0 < den) (h : (num : ℚ) / den < overflow) :
    ∃ m e, nearest? num den = some (m, e) := by
  obtain rfl | hnum := Nat.eq_zero_or_pos num
  · exact ⟨0, -1074, rfl⟩
  obtain ⟨m, e, hle, hleast, hclose, hcase, hnearest⟩ := nearest?_eq hnum hden
  have hpos := halfUnit_pos
  unfold overflow at h
  rw [hnearest]
  split_ifs with hcarry htop htop
  · subst hcarry
    have hunit : (2 : ℚ) ^ (971 : ℤ) ≤ 2 ^ e := two_zpow_le (by omega)
    rw [two_zpow_most] at hunit
    have hbelow := (abs_le.mp hclose).2
    push_cast at hbelow
    linarith
  · exact ⟨_, _, rfl⟩
  · have hunit : (2 : ℚ) ^ ((971 : ℤ) + 1) ≤ 2 ^ e := two_zpow_le (by omega)
    have hlarge := hcase.resolve_left (by omega)
    rw [two_zpow_succ, two_zpow_most] at hunit
    linarith
  · exact ⟨_, _, rfl⟩

/-! ### Values -/

/-- The magnitude as a rational number. -/
def magnitude (x : Binary64) : ℚ := x.mantissa * 2 ^ x.exponent

/-- Mantissa and exponent are those of a value of the format. -/
structure Finite (x : Binary64) : Prop where
  mantissa : x.mantissa < 2 ^ 53
  least : -1074 ≤ x.exponent
  most : x.exponent ≤ 971

theorem toRatio_ratio (x : Binary64) :
    0 < x.toRatio.2 ∧ (x.toRatio.1 : ℚ) / x.toRatio.2 = x.magnitude := by
  unfold toRatio magnitude
  cases x.exponent with
  | ofNat k =>
    refine ⟨Nat.one_pos, ?_⟩
    simp only [Nat.pow_eq, Nat.cast_mul, Nat.cast_pow, Nat.cast_ofNat, Nat.cast_one, div_one,
      Int.ofNat_eq_natCast, zpow_natCast]
  | negSucc k =>
    refine ⟨Nat.pow_pos (by decide), ?_⟩
    simp only [Nat.pow_eq, Nat.cast_pow, Nat.cast_ofNat, zpow_negSucc, div_eq_mul_inv]

theorem Finite.magnitude_lt {x : Binary64} (h : x.Finite) : x.magnitude < overflow := by
  have hmantissa : (x.mantissa : ℚ) + 1 ≤ 2 ^ 53 := by exact_mod_cast h.mantissa
  have hunit : (2 : ℚ) ^ x.exponent ≤ 2 ^ (971 : ℤ) := two_zpow_le h.most
  have hpos := halfUnit_pos
  rw [two_zpow_most] at hunit
  unfold magnitude overflow
  calc (x.mantissa : ℚ) * 2 ^ x.exponent ≤ (2 ^ 53 - 1) * (2 * halfUnit) :=
        mul_le_mul (by linarith) hunit (by positivity) (by norm_num)
    _ < (2 ^ 54 - 1) * halfUnit := by linarith

theorem exists_ofRatio? (negative : Bool) {num den : ℕ} (hden : 0 < den)
    (h : (num : ℚ) / den < overflow) : ∃ x, ofRatio? negative num den = some x := by
  obtain ⟨m, e, hnearest⟩ := exists_nearest? hden h
  refine ⟨⟨negative, m, e⟩, ?_⟩
  unfold ofRatio?
  rw [hnearest]
  rfl

theorem finite_of_ofRatio? {negative : Bool} {num den : ℕ} (hden : 0 < den) {x : Binary64}
    (h : ofRatio? negative num den = some x) : x.Finite := by
  obtain ⟨⟨m, e⟩, hnearest, rfl⟩ := Option.map_eq_some_iff.mp h
  obtain rfl | hnum := Nat.eq_zero_or_pos num
  · obtain ⟨rfl, rfl⟩ := Prod.mk.inj (Option.some.inj hnearest)
    exact ⟨show (0 : ℕ) < 2 ^ 53 by decide, show (-1074 : ℤ) ≤ -1074 from le_rfl,
      show (-1074 : ℤ) ≤ 971 by decide⟩
  · obtain ⟨⟨hm, hleast, hmost⟩, -⟩ := close_of_nearest? hnum hden hnearest
    exact ⟨hm, hleast, hmost⟩

/-- Rounding what is not tiny changes it by one part of `2 ^ 53` at most. -/
theorem close_of_one_le {negative : Bool} {num den : ℕ} (hden : 0 < den) {x : Binary64}
    (h : ofRatio? negative num den = some x) (hone : 1 ≤ (num : ℚ) / den) :
    |x.magnitude - num / den| ≤ num / den / 2 ^ 53 := by
  obtain ⟨⟨m, e⟩, hnearest, rfl⟩ := Option.map_eq_some_iff.mp h
  have hnum : 0 < num := by
    obtain rfl | hnum := Nat.eq_zero_or_pos num
    · norm_num at hone
    · exact hnum
  exact (close_of_nearest? hnum hden hnearest).2.2 hone

/-! ### Arithmetic -/

theorem exists_mul? {x y : Binary64} (h : x.magnitude * y.magnitude < overflow) :
    ∃ z, x.mul? y = some z ∧ z.Finite := by
  obtain ⟨hx, hxRatio⟩ := x.toRatio_ratio
  obtain ⟨hy, hyRatio⟩ := y.toRatio_ratio
  have hpos : 0 < x.toRatio.2 * y.toRatio.2 := Nat.mul_pos hx hy
  have hproduct : ((x.toRatio.1 * y.toRatio.1 : ℕ) : ℚ) / (x.toRatio.2 * y.toRatio.2 : ℕ) =
      x.magnitude * y.magnitude := by
    rw [← hxRatio, ← hyRatio]
    push_cast
    exact (div_mul_div_comm _ _ _ _).symm
  obtain ⟨z, hz⟩ := exists_ofRatio? (x.negative != y.negative) hpos (hproduct.trans_lt h)
  exact ⟨z, hz, finite_of_ofRatio? hpos hz⟩

theorem exists_div? {x y : Binary64} (hx : x.Finite) (hy : 1 ≤ y.magnitude) :
    ∃ z, x.div? y = some z ∧ z.Finite := by
  obtain ⟨hxPos, hxRatio⟩ := x.toRatio_ratio
  obtain ⟨hyPos, hyRatio⟩ := y.toRatio_ratio
  have hyNum : 0 < y.toRatio.1 := by
    by_contra hzero
    rw [Nat.eq_zero_of_not_pos hzero, Nat.cast_zero, zero_div] at hyRatio
    rw [← hyRatio] at hy
    norm_num at hy
  have hpos : 0 < x.toRatio.2 * y.toRatio.1 := Nat.mul_pos hxPos hyNum
  have hquotient : ((x.toRatio.1 * y.toRatio.2 : ℕ) : ℚ) / (x.toRatio.2 * y.toRatio.1 : ℕ) =
      x.magnitude / y.magnitude := by
    rw [← hxRatio, ← hyRatio]
    push_cast
    exact (div_div_div_eq _ _ _ _).symm
  have hnonneg : 0 ≤ x.magnitude := by
    unfold magnitude
    positivity
  have hsmall : x.magnitude / y.magnitude < overflow :=
    (div_le_self hnonneg hy).trans_lt hx.magnitude_lt
  obtain ⟨z, hz⟩ := exists_ofRatio? (x.negative != y.negative) hpos (hquotient.trans_lt hsmall)
  exact ⟨z, hz, finite_of_ofRatio? hpos hz⟩

/-! ### Powers of ten -/

theorem overflow_eq : overflow = (2 ^ 54 - 1) * (2 ^ 194) ^ 5 := by
  unfold overflow halfUnit
  rw [show (970 : ℤ) = ((194 * 5 : ℕ) : ℤ) from rfl, zpow_natCast, pow_mul]

theorem ten_pow_lt_overflow {k : ℕ} (hk : k ≤ 308) : (10 : ℚ) ^ k < overflow :=
  calc (10 : ℚ) ^ k ≤ 10 ^ (77 * 4) := pow_le_pow_right₀ (by norm_num) (by omega)
    _ = (10 ^ 77) ^ 4 := pow_mul _ _ _
    _ < (2 ^ 54 - 1) * (2 ^ 194) ^ 5 := by norm_num
    _ = overflow := overflow_eq.symm

theorem le_of_ten_pow_lt_overflow {k : ℕ} (h : (10 : ℚ) ^ k < overflow) : k ≤ 308 := by
  by_contra hk
  refine absurd h (not_lt.mpr ?_)
  calc overflow = (2 ^ 54 - 1) * (2 ^ 194) ^ 5 := overflow_eq
    _ ≤ (10 ^ 103) ^ 3 := by norm_num
    _ = 10 ^ (103 * 3) := (pow_mul _ _ _).symm
    _ ≤ 10 ^ k := pow_le_pow_right₀ (by norm_num) (by omega)

/-- What one rounding can add. -/
def slack : ℚ := 1 + 1 / 2 ^ 53

theorem exists_powerOfTen? {k : ℕ} (hk : k ≤ 308) :
    ∃ p, powerOfTen? k = some p ∧ p.magnitude ≤ 10 ^ k * slack ∧ (1 ≤ k → 1 ≤ p.magnitude) := by
  have hone : (1 : ℚ) ≤ 10 ^ k := one_le_pow₀ (by norm_num)
  have hvalue : ((Nat.pow 10 k : ℕ) : ℚ) / (1 : ℕ) = 10 ^ k := by
    simp only [Nat.pow_eq, Nat.cast_pow, Nat.cast_ofNat, Nat.cast_one, div_one]
  obtain ⟨p, hp⟩ := exists_ofRatio? false Nat.one_pos (hvalue.trans_lt (ten_pow_lt_overflow hk))
  have hclose := close_of_one_le Nat.one_pos hp (by rwa [hvalue])
  rw [hvalue, abs_le] at hclose
  refine ⟨p, hp, ?_, fun hpos => ?_⟩
  · unfold slack
    linarith
  · have hten : (10 : ℚ) ≤ 10 ^ k := le_self_pow₀ (by norm_num) (by omega)
    linarith

theorem exists_divHuge? {x : Binary64} (hx : x.Finite) (n : ℕ) :
    ∃ z, x.divHuge? n = some z ∧ z.Finite := by
  induction n generalizing x with
  | zero => exact ⟨x, rfl, hx⟩
  | succ n ih =>
    obtain ⟨p, hp, -, hpOne⟩ := exists_powerOfTen? (le_refl 308)
    obtain ⟨y, hy, hyFinite⟩ := exists_div? hx (hpOne (by decide))
    unfold divHuge?
    split_ifs
    · exact ⟨x, rfl, hx⟩
    · rw [hp]
      simp only [Option.bind_eq_bind, Option.bind_some, hy]
      exact ih hyFinite

theorem exists_divPowerOfTen? {x : Binary64} (hx : x.Finite) {k : ℕ} (hk : 1 ≤ k) :
    ∃ z, x.divPowerOfTen? k = some z ∧ z.Finite := by
  have hmost : k - 308 * ((k - 1) / 308) ≤ 308 := by omega
  have hleast : 1 ≤ k - 308 * ((k - 1) / 308) := by omega
  obtain ⟨y, hy, hyFinite⟩ := exists_divHuge? hx ((k - 1) / 308)
  obtain ⟨p, hp, -, hpOne⟩ := exists_powerOfTen? hmost
  obtain ⟨z, hz, hzFinite⟩ := exists_div? hyFinite (hpOne hleast)
  refine ⟨z, ?_, hzFinite⟩
  unfold divPowerOfTen?
  simp only [Option.bind_eq_bind, hy, hp, Option.bind_some, hz]

/-- What is rounded first grows by that much at most; zero stays zero. -/
theorem magnitude_of_digits {negative : Bool} {digits : ℕ} {x : Binary64}
    (h : ofRatio? negative digits 1 = some x) :
    x.magnitude ≤ digits * slack ∧ (digits = 0 → x.mantissa = 0) := by
  obtain rfl | hpos := Nat.eq_zero_or_pos digits
  · obtain rfl := Option.some.inj h
    refine ⟨?_, fun _ => rfl⟩
    simp [magnitude]
  · have hvalue : (digits : ℚ) / (1 : ℕ) = digits := by rw [Nat.cast_one, div_one]
    have hone : (1 : ℚ) ≤ digits := by exact_mod_cast hpos
    have hclose := close_of_one_le Nat.one_pos h (by rwa [hvalue])
    rw [hvalue, abs_le] at hclose
    refine ⟨?_, fun hzero => absurd hzero hpos.ne'⟩
    unfold slack
    linarith

theorem finite_of_mul? {x y z : Binary64} (h : x.mul? y = some z) : z.Finite :=
  finite_of_ofRatio? (Nat.mul_pos x.toRatio_ratio.1 y.toRatio_ratio.1) h

theorem finite_of_ofDecimal? {negative : Bool} {digits : ℕ} {e : ℤ} {z : Binary64}
    (h : ofDecimal? negative digits e = some z) : z.Finite := by
  obtain ⟨x, hx, h⟩ := Option.bind_eq_some_iff.mp h
  have hfinite := finite_of_ofRatio? Nat.one_pos hx
  cases e with
  | ofNat k =>
    dsimp only at h
    split_ifs at h
    · obtain ⟨p, -, hz⟩ := Option.bind_eq_some_iff.mp h
      exact finite_of_mul? hz
    · exact Option.some.inj h ▸ hfinite
  | negSucc k =>
    obtain ⟨z', hz', hfinite'⟩ := exists_divPowerOfTen? hfinite (Nat.succ_pos k)
    exact Option.some.inj (hz'.symm.trans h) ▸ hfinite'

/-- A decimal of at most 64 bits is read unless two roundings may take it beyond the largest finite
value. -/
theorem exists_ofDecimal? (negative : Bool) {digits : ℕ} (hdigits : digits < 2 ^ 64) {e : ℤ}
    (h : ∀ k : ℕ, e = k → (digits : ℚ) * 10 ^ k * (slack * slack) < overflow) :
    ∃ x, ofDecimal? negative digits e = some x := by
  have hvalue : (digits : ℚ) / (1 : ℕ) = digits := by rw [Nat.cast_one, div_one]
  have hsmall : (digits : ℚ) / (1 : ℕ) < overflow := by
    have hpow : (10 : ℚ) ^ 20 < overflow := ten_pow_lt_overflow (by decide)
    have hlt : (digits : ℚ) < 2 ^ 64 := by exact_mod_cast hdigits
    rw [hvalue]
    refine hlt.trans (lt_trans ?_ hpow)
    norm_num
  obtain ⟨x, hx⟩ := exists_ofRatio? negative Nat.one_pos hsmall
  have hfinite := finite_of_ofRatio? Nat.one_pos hx
  unfold ofDecimal?
  rw [hx]
  simp only [Option.bind_eq_bind, Option.bind_some]
  cases e with
  | negSucc k =>
    obtain ⟨z, hz, -⟩ := exists_divPowerOfTen? hfinite (Nat.succ_pos k)
    exact ⟨z, hz⟩
  | ofNat k =>
    have hproduct := h k rfl
    obtain ⟨hdigitsLe, hzero⟩ := magnitude_of_digits hx
    have hslack : (1 : ℚ) ≤ slack := by norm_num [slack]
    dsimp only
    split_ifs with hk hmantissa
    · obtain ⟨p, hp, hpLe, -⟩ := exists_powerOfTen? hk
      have hnonneg : 0 ≤ p.magnitude := by
        unfold magnitude
        positivity
      have hbelow : x.magnitude * p.magnitude < overflow := by
        refine lt_of_le_of_lt ?_ hproduct
        calc x.magnitude * p.magnitude ≤ digits * slack * (10 ^ k * slack) :=
              mul_le_mul hdigitsLe hpLe hnonneg (by positivity)
          _ = digits * 10 ^ k * (slack * slack) := by ring
      obtain ⟨z, hz, -⟩ := exists_mul? hbelow
      rw [hp]
      exact ⟨z, hz⟩
    · exact ⟨x, rfl⟩
    · -- only zero may be multiplied by a power of ten this large
      have hpos : 0 < digits := Nat.pos_of_ne_zero fun h0 => hmantissa (hzero h0)
      have hone : (1 : ℚ) ≤ digits := by exact_mod_cast hpos
      refine absurd (le_of_ten_pow_lt_overflow (lt_of_le_of_lt ?_ hproduct)) hk
      calc (10 : ℚ) ^ k = 1 * 10 ^ k * (1 * 1) := by ring
        _ ≤ digits * 10 ^ k * (slack * slack) := by gcongr

/-! ### Shortest decimal form -/

/-- The decimal is at most half a unit above the magnitude. -/
def Within (x : Binary64) (decimal : ℕ × ℤ) : Prop :=
  decimal.1 ≠ 0 ∧ (decimal.1 : ℚ) * 10 ^ decimal.2 ≤ (x.mantissa + 1 / 2) * 2 ^ x.exponent

variable {x : Binary64}

theorem within_of_readsBack (hx : x.mantissa ≠ 0) {digits : ℕ} {e : ℤ}
    (h : x.readsBack digits e = true) : Within x (digits, e) := by
  obtain ⟨hpos, hratio⟩ := scaleTen_ratio digits Nat.one_pos e
  have hnearest : nearest? (scaleTen digits 1 e).1 (scaleTen digits 1 e).2 =
      some (x.mantissa, x.exponent) := of_decide_eq_true h
  have hdigits : digits ≠ 0 := by
    rintro rfl
    have hzero : (scaleTen 0 1 e).1 = 0 := by
      cases e with
      | ofNat k => exact Nat.zero_mul _
      | negSucc k => rfl
    rw [hzero] at hnearest
    exact hx (Prod.mk.inj (Option.some.inj hnearest)).1.symm
  have hnum : 0 < (scaleTen digits 1 e).1 := by
    cases e with
    | ofNat k => exact Nat.mul_pos (Nat.pos_of_ne_zero hdigits) (Nat.pow_pos (by decide))
    | negSucc k => exact Nat.pos_of_ne_zero hdigits
  obtain ⟨-, hclose, -⟩ := close_of_nearest? hnum hpos hnearest
  rw [hratio, Nat.cast_one, div_one, abs_le] at hclose
  refine ⟨hdigits, ?_⟩
  dsimp only
  linarith

theorem within_of_withDigits? (hx : x.mantissa ≠ 0) {count : ℕ} {decimal : ℕ × ℤ}
    (h : x.withDigits? count = some decimal) : Within x decimal := by
  unfold withDigits? at h
  dsimp only at h
  split_ifs at h
  all_goals
    obtain rfl := Option.some.inj h
    exact within_of_readsBack hx (by assumption)

theorem within_exact (hx : x.mantissa ≠ 0) : Within x x.exact := by
  have hunit : (0 : ℚ) < 2 ^ x.exponent := by positivity
  have hvalue : x.exact.1 ≠ 0 ∧ (x.exact.1 : ℚ) * 10 ^ x.exact.2 = x.mantissa * 2 ^ x.exponent := by
    unfold exact
    cases x.exponent with
    | ofNat k =>
      refine ⟨Nat.mul_ne_zero hx (Nat.pow_pos (by decide)).ne', ?_⟩
      simp only [Nat.pow_eq, Nat.cast_mul, Nat.cast_pow, Nat.cast_ofNat, zpow_zero, mul_one,
        Int.ofNat_eq_natCast, zpow_natCast]
    | negSucc k =>
      refine ⟨Nat.mul_ne_zero hx (Nat.pow_pos (by decide)).ne', ?_⟩
      have hten : (10 : ℚ) ^ (k + 1) = 2 ^ (k + 1) * 5 ^ (k + 1) := by
        rw [← mul_pow]
        norm_num
      have hexp : -((k : ℤ) + 1) = Int.negSucc k := rfl
      simp only [Nat.pow_eq, Nat.cast_mul, Nat.cast_pow, Nat.cast_ofNat, hexp, zpow_negSucc, hten]
      field_simp
  refine ⟨hvalue.1, hvalue.2.trans_le ?_⟩
  gcongr
  linarith

theorem within_stripZeros (fuel : ℕ) {digits : ℕ} {e : ℤ} (h : Within x (digits, e)) :
    Within x (stripZeros fuel digits e) := by
  induction fuel generalizing digits e with
  | zero => exact h
  | succ fuel ih =>
    unfold stripZeros
    split_ifs with hzero
    · have hdigits : digits = digits / 10 * 10 := by omega
      refine ih ⟨fun h0 => h.1 (by dsimp only at h0 ⊢; omega), ?_⟩
      refine le_of_eq_of_le ?_ h.2
      dsimp only
      rw [zpow_add_one₀ (by norm_num : (10 : ℚ) ≠ 0)]
      nth_rewrite 2 [hdigits]
      push_cast
      ring
    · exact h

theorem within_shortest (hx : x.mantissa ≠ 0) : Within x x.shortest := by
  unfold shortest
  cases hfound : (List.range 17).findSome? fun i => x.withDigits? (i + 1) with
  | none => exact within_stripZeros _ (within_exact hx)
  | some decimal =>
    obtain ⟨i, -, hi⟩ := List.exists_of_findSome?_eq_some hfound
    exact within_stripZeros _ (within_of_withDigits? hx hi)

/-- Two roundings take a decimal within half a unit beyond the largest finite value only if it
belongs to one of the three largest. -/
theorem shortest_lt_overflow (hx : x.Finite)
    (htop : x.exponent < 971 ∨ x.mantissa + 4 ≤ 2 ^ 53) {d : ℚ}
    (hd : d ≤ (x.mantissa + 1 / 2) * 2 ^ x.exponent) : d * (slack * slack) < overflow := by
  have hslack : (0 : ℚ) ≤ slack * slack := by norm_num [slack]
  have hpos := halfUnit_pos
  refine lt_of_le_of_lt (mul_le_mul_of_nonneg_right hd hslack) ?_
  unfold overflow
  obtain hexponent | hmantissa := htop
  · have hmantissa : (x.mantissa : ℚ) + 1 ≤ 2 ^ 53 := by exact_mod_cast hx.mantissa
    have hunit : (2 : ℚ) ^ x.exponent ≤ halfUnit := two_zpow_le (by omega)
    calc ((x.mantissa : ℚ) + 1 / 2) * 2 ^ x.exponent * (slack * slack)
        ≤ 2 ^ 53 * halfUnit * (slack * slack) :=
          mul_le_mul_of_nonneg_right
            (mul_le_mul (by linarith) hunit (by positivity) (by norm_num)) hslack
      _ = 2 ^ 53 * (slack * slack) * halfUnit := by ring
      _ < (2 ^ 54 - 1) * halfUnit := mul_lt_mul_of_pos_right (by norm_num [slack]) hpos
  · have hmantissa' : (x.mantissa : ℚ) + 4 ≤ 2 ^ 53 := by exact_mod_cast hmantissa
    have hunit : (2 : ℚ) ^ x.exponent ≤ 2 * halfUnit := two_zpow_most ▸ two_zpow_le hx.most
    calc ((x.mantissa : ℚ) + 1 / 2) * 2 ^ x.exponent * (slack * slack)
        ≤ (2 ^ 53 - 7 / 2) * (2 * halfUnit) * (slack * slack) :=
          mul_le_mul_of_nonneg_right
            (mul_le_mul (by linarith) hunit (by positivity) (by norm_num)) hslack
      _ = (2 ^ 54 - 7) * (slack * slack) * halfUnit := by ring
      _ < (2 ^ 54 - 1) * halfUnit := mul_lt_mul_of_pos_right (by norm_num [slack]) hpos

end MachineActuator.Binary64
