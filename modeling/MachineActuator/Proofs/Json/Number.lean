import Mathlib
import MachineActuator.Json.Sent
import MachineActuator.Proofs.Binary64
import MachineActuator.Proofs.Time.Rfc3339

/-! # Numbers read back

A number that is written is read again, and what is read is what `Number.sent` says, whatever
follows the number in the text (`Number.read_render`).  An integer comes back as it is.  A binary64
value may come back as one of its neighbours, but it always comes back as a value: its digits and
its power of ten are rounded one after the other, and only the three largest values come close
enough to the limit that they have to be looked at one by one (`Number.exists_ofDecimal?_top`). -/

namespace MachineActuator.Json

namespace Number

/-! ### Digits -/

theorem digit?_eq (c : Char) :
    digit? c = if c.isDigit then some (c.toNat - '0'.toNat) else none := by
  have hiff : ('0' ≤ c ∧ c ≤ '9') ↔ c.isDigit = true := by
    simp [Char.isDigit, Char.le_def, UInt32.le_iff_toNat_le]
  unfold digit?
  simp only [hiff]

theorem digit?_of_isDigit {c : Char} (h : c.isDigit = true) :
    digit? c = some (c.toNat - '0'.toNat) := by rw [digit?_eq, if_pos h]

/-- The digits that are kept: as many as fit into 64 bits behind what is there already. -/
def fitting (acc : ℕ) : List Char → List Char
  | [] => []
  | c :: ds =>
    if acc * 10 + (c.toNat - '0'.toNat) < 2 ^ 64 then
      c :: fitting (acc * 10 + (c.toNat - '0'.toNat)) ds
    else []

theorem fitting_prefix (acc : ℕ) (ds : List Char) : ∃ post, ds = fitting acc ds ++ post := by
  induction ds generalizing acc with
  | nil => exact ⟨[], rfl⟩
  | cons c ds ih =>
    unfold fitting
    split_ifs
    · obtain ⟨post, hpost⟩ := ih (acc * 10 + (c.toNat - '0'.toNat))
      exact ⟨post, congrArg (c :: ·) hpost⟩
    · exact ⟨c :: ds, rfl⟩

theorem fitting_lt {acc : ℕ} (h : acc < 2 ^ 64) (ds : List Char) :
    Nat.ofDigitChars 10 (fitting acc ds) acc < 2 ^ 64 := by
  induction ds generalizing acc with
  | nil => exact h
  | cons c ds ih =>
    unfold fitting
    split_ifs with hfits
    · rw [Nat.ofDigitChars_cons, Nat.mul_comm 10 acc]
      exact ih hfits
    · exact h

theorem le_ofDigitChars (ds : List Char) (acc : ℕ) : acc ≤ Nat.ofDigitChars 10 ds acc := by
  rw [Nat.ofDigitChars_eq_ofDigitChars_zero]
  have hpos : 1 ≤ 10 ^ ds.length := Nat.one_le_pow _ _ (by decide)
  calc acc = 1 * acc := (Nat.one_mul acc).symm
    _ ≤ 10 ^ ds.length * acc := Nat.mul_le_mul_right acc hpos
    _ ≤ _ := Nat.le_add_right _ _

theorem fitting_eq_self {acc : ℕ} {ds : List Char} (h : Nat.ofDigitChars 10 ds acc < 2 ^ 64) :
    fitting acc ds = ds := by
  induction ds generalizing acc with
  | nil => rfl
  | cons c ds ih =>
    rw [Nat.ofDigitChars_cons, Nat.mul_comm 10 acc] at h
    unfold fitting
    rw [if_pos ((le_ofDigitChars _ _).trans_lt h), ih h]

theorem fitting_mul_le (acc : ℕ) (ds : List Char) :
    Nat.ofDigitChars 10 (fitting acc ds) acc * 10 ^ (ds.length - (fitting acc ds).length) ≤
      Nat.ofDigitChars 10 ds acc := by
  obtain ⟨post, hpost⟩ := fitting_prefix acc ds
  have hlength : ds.length - (fitting acc ds).length = post.length := by
    have := congrArg List.length hpost
    rw [List.length_append] at this
    omega
  rw [hlength]
  generalize fitting acc ds = pre at hpost
  rw [hpost, Nat.ofDigitChars_append,
    Nat.ofDigitChars_eq_ofDigitChars_zero (l := post), Nat.mul_comm]
  exact Nat.le_add_right _ _

section Readers

variable {ds rest : List Char} (hds : ∀ c ∈ ds, c.isDigit = true)
  (hrest : startsWithDigit rest = false)

theorem startsWithDigit_append (hds : ∀ c ∈ ds, c.isDigit = true) (hne : ds ≠ [])
    (rest : List Char) : startsWithDigit (ds ++ rest) = true := by
  cases ds with
  | nil => exact absurd rfl hne
  | cons c ds =>
    show (digit? c).isSome = true
    rw [digit?_of_isDigit (hds c List.mem_cons_self)]
    rfl

include hds hrest

theorem gather_append (acc count : ℕ) :
    gather acc count (ds ++ rest) =
      (Nat.ofDigitChars 10 (fitting acc ds) acc, count + (fitting acc ds).length,
        ds.drop (fitting acc ds).length ++ rest) := by
  induction ds generalizing acc count with
  | nil =>
    cases rest with
    | nil => rfl
    | cons c rest =>
      have hnone : digit? c = none := by
        simpa [startsWithDigit] using hrest
      show gather acc count (c :: rest) = _
      unfold gather
      rw [hnone]
      rfl
  | cons c ds ih =>
    obtain ⟨hc, hds⟩ := List.forall_mem_cons.mp hds
    rw [List.cons_append]
    unfold gather fitting
    rw [digit?_of_isDigit hc]
    simp only [Nat.pow_eq]
    split_ifs
    · rw [ih hds, Nat.ofDigitChars_cons, Nat.mul_comm 10 acc, List.length_cons,
        List.drop_succ_cons, Nat.add_right_comm, Nat.add_assoc]
    · rfl

theorem skipDigits_append (count : ℕ) :
    skipDigits count (ds ++ rest) = (count + ds.length, rest) := by
  induction ds generalizing count with
  | nil =>
    cases rest with
    | nil => rfl
    | cons c rest =>
      have hnone : (digit? c).isSome = false := hrest
      show skipDigits count (c :: rest) = _
      unfold skipDigits
      rw [hnone]
      rfl
  | cons c ds ih =>
    obtain ⟨hc, hds⟩ := List.forall_mem_cons.mp hds
    rw [List.cons_append]
    unfold skipDigits
    rw [digit?_of_isDigit hc, Option.isSome_some, if_pos rfl, ih hds, List.length_cons,
      Nat.add_right_comm, Nat.add_assoc]

theorem readNat_append (acc : ℕ) :
    readNat acc (ds ++ rest) = (Nat.ofDigitChars 10 ds acc, rest) := by
  induction ds generalizing acc with
  | nil =>
    cases rest with
    | nil => rfl
    | cons c rest =>
      have hnone : digit? c = none := by
        simpa [startsWithDigit] using hrest
      show readNat acc (c :: rest) = _
      unfold readNat
      rw [hnone]
      rfl
  | cons c ds ih =>
    obtain ⟨hc, hds⟩ := List.forall_mem_cons.mp hds
    rw [List.cons_append]
    unfold readNat
    rw [digit?_of_isDigit hc]
    dsimp only
    rw [ih hds, Nat.ofDigitChars_cons, Nat.mul_comm]

theorem readFraction_append (hne : ds ≠ []) (acc : ℕ) :
    readFraction acc (ds ++ rest) =
      some (Nat.ofDigitChars 10 (fitting acc ds) acc, (fitting acc ds).length, rest) := by
  have hdrop : ∀ c ∈ ds.drop (fitting acc ds).length, c.isDigit = true :=
    fun c hc => hds c (List.mem_of_mem_drop hc)
  unfold readFraction
  rw [if_pos (startsWithDigit_append hds hne rest), gather_append hds hrest]
  dsimp only
  rw [skipDigits_append hdrop hrest, Nat.zero_add]

theorem readExponent_append (hne : ds ≠ []) (negative : Bool) :
    readExponent ((if negative then '-' else '+') :: (ds ++ rest)) =
      some (if negative then -(Nat.ofDigitChars 10 ds 0 : ℤ) else Nat.ofDigitChars 10 ds 0,
        rest) := by
  have hstarts := startsWithDigit_append hds hne rest
  unfold readExponent
  cases negative with
  | true =>
    simp only [if_true, hstarts, readNat_append hds hrest]
  | false =>
    simp only [Bool.false_eq_true, if_false, if_true, hstarts, readNat_append hds hrest]

end Readers

/-! ### Whole numbers in front -/

/-- What may stand in front of the point: a zero, or digits that do not begin with one and fit into
64 bits. -/
def IsWhole (w : List Char) : Prop :=
  w = ['0'] ∨ ((∀ c ∈ w, c.isDigit = true) ∧ Nat.ofDigitChars 10 w 0 < 2 ^ 64 ∧
    ∃ c ds, w = c :: ds ∧ c ≠ '0')

theorem exists_toDigits_eq_cons {n : ℕ} (hn : n ≠ 0) :
    ∃ c ds, Nat.toDigits 10 n = c :: ds ∧ c ≠ '0' := by
  induction n using Nat.strongRecOn with
  | _ n ih =>
    by_cases hsmall : n < 10
    · refine ⟨n.digitChar, [], Nat.toDigits_of_lt_base hsmall, ?_⟩
      rwa [Ne, Nat.digitChar_eq_zero]
    · obtain ⟨c, ds, hds, hc⟩ := ih (n / 10) (by omega) (by omega)
      refine ⟨c, ds ++ [(n % 10).digitChar], ?_, hc⟩
      rw [Nat.toDigits_of_base_le (by decide) (by omega), hds]
      rfl

theorem isDigit_of_mem_toDigits (n : ℕ) : ∀ c ∈ Nat.toDigits 10 n, c.isDigit = true :=
  fun _ hc => Nat.isDigit_of_mem_toDigits (by decide) (by decide) hc

theorem isWhole_toDigits {n : ℕ} (hn : n < 2 ^ 64) : IsWhole (Nat.toDigits 10 n) := by
  by_cases hzero : n = 0
  · exact .inl (by rw [hzero, Nat.toDigits_zero])
  · refine .inr ⟨isDigit_of_mem_toDigits n, ?_, exists_toDigits_eq_cons hzero⟩
    rwa [Nat.ofDigitChars_ten_toDigits]

theorem readWhole_append {w rest : List Char} (hw : IsWhole w)
    (hrest : startsWithDigit rest = false) :
    readWhole (w ++ rest) = some (Nat.ofDigitChars 10 w 0, 0, rest) := by
  obtain rfl | ⟨hdigits, hlt, c, ds, rfl, hc⟩ := hw
  · show readWhole ('0' :: rest) = _
    unfold readWhole
    dsimp only
    rw [show digit? '0' = some 0 from rfl]
    simp only [hrest]
    rfl
  · obtain ⟨hcDigit, hds⟩ := List.forall_mem_cons.mp hdigits
    obtain ⟨d, hd⟩ : ∃ d, c.toNat - '0'.toNat = d + 1 := by
      refine Nat.exists_eq_succ_of_ne_zero fun hzero => hc (Char.toNat_inj.mp ?_)
      have hrange := (Rfc3339.isDigit_toNat hcDigit).1
      exact le_antisymm (Nat.sub_eq_zero_iff_le.mp hzero) hrange
    rw [Nat.ofDigitChars_cons, Nat.mul_zero, Nat.zero_add, hd] at hlt ⊢
    rw [List.cons_append]
    unfold readWhole
    dsimp only
    rw [digit?_of_isDigit hcDigit, hd]
    have hskip : skipDigits 0 ([] ++ rest) = _ := skipDigits_append (by simp) hrest 0
    simp only [gather_append hds hrest, fitting_eq_self hlt, List.drop_length, hskip,
      List.length_nil, Nat.add_zero]

/-! ### Numbers as a whole -/

/-- What may follow a number in a document: the end, or a mark that no number contains. -/
def Ends (rest : List Char) : Prop :=
  ∀ c tail, rest = c :: tail → c = ',' ∨ c = ']' ∨ c = '\x7d'

theorem ends_nil : Ends [] := fun _ _ h => nomatch h

theorem startsWithDigit_of_ends {rest : List Char} (h : Ends rest) :
    startsWithDigit rest = false := by
  cases rest with
  | nil => rfl
  | cons c tail => obtain rfl | rfl | rfl := h c tail rfl <;> rfl

/-- A text behind its sign. -/
def signed (negative : Bool) (cs : List Char) : List Char := if negative then '-' :: cs else cs

/-- Reads what follows the sign of a number. -/
def readUnsigned (negative : Bool) (cs : List Char) : Option (Number × List Char) := do
  let (digits, dropped, rest) ← readWhole cs
  let (digits, scale, pointed, rest) ← match rest with
    | '.' :: rest => do
      let (digits, count, rest) ← readFraction digits rest
      pure (digits, (dropped : Int) - count, true, rest)
    | rest => pure (digits, (dropped : Int), false, rest)
  match rest with
  | 'e' :: rest | 'E' :: rest =>
    let (power, rest) ← readExponent rest
    let x ← Binary64.ofDecimal? negative digits (scale + power)
    pure (float x, rest)
  | rest =>
    if pointed then
      let x ← Binary64.ofDecimal? negative digits scale
      pure (float x, rest)
    else
      let n ← ofInteger negative digits dropped
      pure (n, rest)

theorem IsWhole.exists_cons {w : List Char} (h : IsWhole w) : ∃ c ds, w = c :: ds ∧ c ≠ '-' := by
  obtain rfl | ⟨hdigits, -, c, ds, rfl, -⟩ := h
  · exact ⟨'0', [], rfl, by decide⟩
  · refine ⟨c, ds, rfl, ?_⟩
    rintro rfl
    exact absurd (hdigits '-' List.mem_cons_self) (by decide)

theorem read_signed {w : List Char} (hw : IsWhole w) (negative : Bool) (tail : List Char) :
    read (signed negative (w ++ tail)) = readUnsigned negative (w ++ tail) := by
  obtain ⟨c, ds, rfl, hc⟩ := hw.exists_cons
  cases negative with
  | true => rfl
  | false =>
    show read (c :: (ds ++ tail)) = readUnsigned false (c :: (ds ++ tail))
    unfold read
    split
    next negative cs hmatch =>
      split at hmatch
      · next rest hcons => exact absurd (List.cons.inj hcons).1 hc
      · obtain ⟨rfl, rfl⟩ := Prod.mk.inj hmatch
        rfl

section Texts

variable {w f rest : List Char} (hw : IsWhole w) (negative : Bool) (hrest : Ends rest)

include hw hrest

theorem readUnsigned_integer :
    readUnsigned negative (w ++ rest) =
      (ofInteger negative (Nat.ofDigitChars 10 w 0) 0).map (·, rest) := by
  unfold readUnsigned
  rw [readWhole_append hw (startsWithDigit_of_ends hrest), Option.map_eq_bind]
  cases rest with
  | nil => simp
  | cons c tail => obtain rfl | rfl | rfl := hrest c tail rfl <;> simp

variable (hf : ∀ c ∈ f, c.isDigit = true)

include hf

theorem readUnsigned_pointed (hne : f ≠ []) :
    readUnsigned negative (w ++ '.' :: (f ++ rest)) =
      (Binary64.ofDecimal? negative
        (Nat.ofDigitChars 10 (fitting (Nat.ofDigitChars 10 w 0) f) (Nat.ofDigitChars 10 w 0))
        (-((fitting (Nat.ofDigitChars 10 w 0) f).length : ℤ))).map fun x => (float x, rest) := by
  have hfraction := readFraction_append hf (startsWithDigit_of_ends hrest) hne
    (Nat.ofDigitChars 10 w 0)
  unfold readUnsigned
  rw [readWhole_append hw (show startsWithDigit ('.' :: (f ++ rest)) = false from rfl)]
  simp only [Option.bind_eq_bind, Option.bind_some, hfraction]
  rw [Option.map_eq_bind]
  cases rest with
  | nil => simp
  | cons c tail => obtain rfl | rfl | rfl := hrest c tail rfl <;> simp

/-- A digit and the places behind its point, if any, then a power of ten with its sign. -/
theorem readUnsigned_scientific (below : Bool) {p : List Char}
    (hp : ∀ c ∈ p, c.isDigit = true) (hne : p ≠ []) :
    readUnsigned negative
        (w ++ (if f = [] then [] else '.' :: f) ++
          'e' :: (if below then '-' else '+') :: (p ++ rest)) =
      (Binary64.ofDecimal? negative
        (Nat.ofDigitChars 10 (fitting (Nat.ofDigitChars 10 w 0) f) (Nat.ofDigitChars 10 w 0))
        (-((fitting (Nat.ofDigitChars 10 w 0) f).length : ℤ) +
          if below then -(Nat.ofDigitChars 10 p 0 : ℤ) else Nat.ofDigitChars 10 p 0)).map
        fun x => (float x, rest) := by
  have hexponent := readExponent_append hp (startsWithDigit_of_ends hrest) hne below
  rw [Option.map_eq_bind]
  unfold readUnsigned
  by_cases hnone : f = []
  · subst hnone
    rw [if_pos rfl, List.append_nil, readWhole_append hw rfl]
    simp [hexponent, fitting]
  · have hstop : startsWithDigit ('e' :: (if below then '-' else '+') :: (p ++ rest)) = false := rfl
    have hfraction := readFraction_append hf hstop hnone (Nat.ofDigitChars 10 w 0)
    rw [if_neg hnone, List.append_assoc, List.cons_append, readWhole_append hw rfl]
    simp [hexponent, hfraction]

end Texts

/-! ### Binary64 values -/

/-- The text is read as one value, whatever follows it. -/
def ReadsFloat (cs : List Char) : Prop :=
  ∃ y, ∀ rest, Ends rest → read (cs ++ rest) = some (float y, rest)

theorem ofDigitChars_lt {ds : List Char} (h : ∀ c ∈ ds, c.isDigit = true) (acc : ℕ) :
    Nat.ofDigitChars 10 ds acc < (acc + 1) * 10 ^ ds.length := by
  induction ds generalizing acc with
  | nil => simp
  | cons c ds ih =>
    obtain ⟨hc, hds⟩ := List.forall_mem_cons.mp h
    have hrange := Rfc3339.isDigit_toNat hc
    rw [Nat.ofDigitChars_cons, List.length_cons, Nat.pow_succ']
    calc _ < (10 * acc + (c.toNat - '0'.toNat) + 1) * 10 ^ ds.length := ih hds _
      _ ≤ (acc + 1) * 10 * 10 ^ ds.length := by
        refine Nat.mul_le_mul_right _ ?_
        have hzero : '0'.toNat = 48 := rfl
        omega
      _ = (acc + 1) * (10 * 10 ^ ds.length) := Nat.mul_assoc _ _ _

theorem isWhole_of_length_le {c : Char} {ds : List Char} (h : ∀ d ∈ c :: ds, d.isDigit = true)
    (hc : c ≠ '0') (hlength : (c :: ds).length ≤ 16) : IsWhole (c :: ds) := by
  refine .inr ⟨h, ?_, c, ds, rfl, hc⟩
  calc Nat.ofDigitChars 10 (c :: ds) 0 < (0 + 1) * 10 ^ (c :: ds).length := ofDigitChars_lt h 0
    _ ≤ 10 ^ 16 := by
      rw [Nat.zero_add, Nat.one_mul]
      exact Nat.pow_le_pow_right (by decide) hlength
    _ < 2 ^ 64 := by decide

theorem isWhole_singleton {c : Char} (h : c.isDigit = true) (hc : c ≠ '0') : IsWhole [c] := by
  refine isWhole_of_length_le (fun d hd => ?_) hc (Nat.succ_le_succ (Nat.zero_le _))
  exact List.mem_singleton.mp hd ▸ h

theorem IsWhole.value_lt {w : List Char} (h : IsWhole w) : Nat.ofDigitChars 10 w 0 < 2 ^ 64 := by
  obtain rfl | ⟨-, hlt, -⟩ := h
  · decide
  · exact hlt

/-- Digits with a point among them never stand for too large a value. -/
theorem readsFloat_pointed {w f : List Char} (hw : IsWhole w)
    (hf : ∀ c ∈ f, c.isDigit = true) (hne : f ≠ []) (negative : Bool) :
    ReadsFloat (signed negative (w ++ '.' :: f)) := by
  have hlt := fitting_lt hw.value_lt f
  obtain ⟨y, hy⟩ := Binary64.exists_ofDecimal? negative hlt
    (e := -((fitting (Nat.ofDigitChars 10 w 0) f).length : ℤ)) (fun k hk => by
      obtain rfl : k = 0 := by omega
      have hdigits : (Nat.ofDigitChars 10 (fitting (Nat.ofDigitChars 10 w 0) f)
          (Nat.ofDigitChars 10 w 0) : ℚ) < 2 ^ 64 := by exact_mod_cast hlt
      have hpow : (10 : ℚ) ^ 20 < Binary64.overflow := Binary64.ten_pow_lt_overflow (by decide)
      rw [pow_zero, mul_one]
      refine lt_trans (mul_lt_mul_of_pos_right hdigits (by norm_num [Binary64.slack])) ?_
      exact lt_trans (by norm_num [Binary64.slack]) hpow)
  refine ⟨y, fun rest hrest => ?_⟩
  have hread := readUnsigned_pointed hw negative hrest hf hne
  have happend : signed negative (w ++ '.' :: f) ++ rest =
      signed negative (w ++ '.' :: (f ++ rest)) := by
    cases negative <;> simp [signed]
  rw [happend, read_signed hw, hread, hy]
  rfl

/-- What digits with a power of ten are read as when they are written with an exponent: the first
digit stands before the point, and of the others those count that fit. -/
def scientific? (negative : Bool) (decimal : ℕ × ℤ) : Option Binary64 :=
  match Nat.toDigits 10 decimal.1 with
  | [] => none
  | d :: f =>
    let kept := fitting (Nat.ofDigitChars 10 [d] 0) f
    Binary64.ofDecimal? negative (Nat.ofDigitChars 10 kept (Nat.ofDigitChars 10 [d] 0))
      (-(kept.length : ℤ) + (f.length + decimal.2))

theorem shortest_eq_unsigned (own : Bool) (m : ℕ) (e : ℤ) :
    Binary64.shortest ⟨own, m, e⟩ = Binary64.shortest ⟨false, m, e⟩ := rfl

theorem exists_ofDecimal?_top (negative : Bool) :
    ∀ m ∈ [2 ^ 53 - 1, 2 ^ 53 - 2, 2 ^ 53 - 3],
      (scientific? negative (Binary64.shortest ⟨false, m, 971⟩)).isSome = true := by
  revert negative
  decide +kernel

theorem exists_scientific? {x : Binary64} (hx : x.Finite) (hmantissa : x.mantissa ≠ 0)
    (negative : Bool) : ∃ y, scientific? negative x.shortest = some y := by
  by_cases htop : x.exponent < 971 ∨ x.mantissa + 4 ≤ 2 ^ 53
  · obtain ⟨hdigits, hle⟩ := Binary64.within_shortest hmantissa
    obtain ⟨d, f, hds, hd⟩ := exists_toDigits_eq_cons hdigits
    have hvalue : Nat.ofDigitChars 10 f (Nat.ofDigitChars 10 [d] 0) = x.shortest.1 := by
      rw [← Nat.ofDigitChars_append, List.singleton_append, ← hds, Nat.ofDigitChars_ten_toDigits]
    have hstart : Nat.ofDigitChars 10 [d] 0 < 2 ^ 64 := by
      refine (isWhole_singleton ?_ hd).value_lt
      exact isDigit_of_mem_toDigits x.shortest.1 d (hds ▸ List.mem_cons_self)
    unfold scientific?
    rw [hds]
    refine Binary64.exists_ofDecimal? negative (fitting_lt hstart f) fun k hk => ?_
    have hkept := fitting_mul_le (Nat.ofDigitChars 10 [d] 0) f
    obtain ⟨post, hpost⟩ := fitting_prefix (Nat.ofDigitChars 10 [d] 0) f
    have hlength : (fitting (Nat.ofDigitChars 10 [d] 0) f).length ≤ f.length := by
      conv_rhs => rw [hpost]
      simp
    rw [hvalue] at hkept
    have hpower : (k : ℤ) =
        ((f.length - (fitting (Nat.ofDigitChars 10 [d] 0) f).length : ℕ) : ℤ) + x.shortest.2 := by
      omega
    refine Binary64.shortest_lt_overflow hx htop (le_trans ?_ hle)
    have hkept' : (Nat.ofDigitChars 10 (fitting (Nat.ofDigitChars 10 [d] 0) f)
        (Nat.ofDigitChars 10 [d] 0) : ℚ) *
          10 ^ (f.length - (fitting (Nat.ofDigitChars 10 [d] 0) f).length) ≤ x.shortest.1 := by
      exact_mod_cast hkept
    rw [← zpow_natCast, hpower, zpow_add₀ (by norm_num), zpow_natCast, ← mul_assoc]
    gcongr
  · -- the bound is too coarse for the three largest values
    obtain ⟨own, m, e⟩ := x
    have hlt : m < 2 ^ 53 := hx.mantissa
    have hmost : e ≤ 971 := hx.most
    dsimp only at htop
    obtain rfl : e = 971 := by omega
    rw [shortest_eq_unsigned]
    refine Option.isSome_iff_exists.mp (exists_ofDecimal?_top negative m ?_)
    simp only [List.mem_cons, List.not_mem_nil, or_false]
    omega

/-- Digits with an exponent are read unless they stand for too large a value. -/
theorem readsFloat_scientific {negative : Bool} {digits : ℕ} (hdigits : digits ≠ 0) {e : ℤ}
    (h : ∃ y, scientific? negative (digits, e) = some y) {d : Char} {f : List Char}
    (hds : Nat.toDigits 10 digits = d :: f) {lead : ℤ} (hlead : lead = f.length + e) :
    ReadsFloat (signed negative ((if f = [] then [d] else d :: '.' :: f) ++
      'e' :: (if lead < 0 then '-' else '+') :: Nat.toDigits 10 lead.natAbs)) := by
  obtain ⟨y, hy⟩ := h
  have hdigit : ∀ c ∈ d :: f, c.isDigit = true := hds ▸ isDigit_of_mem_toDigits digits
  have hd : d ≠ '0' := by
    obtain ⟨c, ds, hcons, hc⟩ := exists_toDigits_eq_cons hdigits
    rw [hds] at hcons
    exact (List.cons.inj hcons).1 ▸ hc
  obtain ⟨hdDigit, hf⟩ := List.forall_mem_cons.mp hdigit
  have hw := isWhole_singleton hdDigit hd
  have hpower : (if lead < 0 then -(lead.natAbs : ℤ) else lead.natAbs) = lead := by
    split_ifs <;> omega
  unfold scientific? at hy
  rw [hds] at hy
  dsimp only at hy
  rw [← hlead] at hy
  refine ⟨y, fun rest hrest => ?_⟩
  have hread := readUnsigned_scientific hw negative hrest hf (decide (lead < 0))
    (isDigit_of_mem_toDigits lead.natAbs) Nat.toDigits_ne_nil
  simp only [decide_eq_true_eq, Nat.ofDigitChars_ten_toDigits, hpower, hy] at hread
  have happend : signed negative ((if f = [] then [d] else d :: '.' :: f) ++
        'e' :: (if lead < 0 then '-' else '+') :: Nat.toDigits 10 lead.natAbs) ++ rest =
      signed negative ([d] ++ ((if f = [] then [] else '.' :: f) ++
        'e' :: (if lead < 0 then '-' else '+') :: (Nat.toDigits 10 lead.natAbs ++ rest))) := by
    by_cases hnone : f = [] <;> cases negative <;> simp [signed, hnone]
  rw [happend, read_signed hw, ← List.append_assoc, hread]
  rfl

theorem toList_signed (negative : Bool) (body : List Char) :
    ((if negative then "-" else "") ++ String.ofList body).toList = signed negative body := by
  cases negative <;> simp [signed]

/-- A binary64 value is read as one, whichever of its forms it is written in. -/
theorem readsFloat_render {x : Binary64} (hx : x.Finite) : ReadsFloat x.render.toList := by
  by_cases hmantissa : x.mantissa = 0
  · have hrender : x.render.toList = signed x.negative (['0'] ++ '.' :: ['0']) := by
      unfold Binary64.render
      simp only [hmantissa, if_true]
      cases x.negative <;> rfl
    have hzero : ∀ c ∈ ['0'], c.isDigit = true := fun c hc => List.mem_singleton.mp hc ▸ rfl
    rw [hrender]
    exact readsFloat_pointed (.inl rfl) hzero (List.cons_ne_nil _ _) x.negative
  obtain ⟨hdigits, -⟩ := Binary64.within_shortest hmantissa
  have hscientific := exists_scientific? hx hmantissa x.negative
  unfold Binary64.render
  simp only [hmantissa, if_false, toList_signed]
  generalize x.shortest = decimal at hdigits hscientific ⊢
  obtain ⟨digits, e⟩ := decimal
  dsimp only at hdigits ⊢
  obtain ⟨d, f, hds, hd⟩ := exists_toDigits_eq_cons hdigits
  have hdigit : ∀ c ∈ d :: f, c.isDigit = true := hds ▸ isDigit_of_mem_toDigits digits
  have hzeros (n : ℕ) : ∀ c ∈ List.replicate n '0', c.isDigit = true :=
    fun c hc => List.eq_of_mem_replicate hc ▸ rfl
  rw [hds]
  obtain ⟨lead, hlead⟩ : ∃ lead : ℤ, lead = ((d :: f).length : ℤ) + e - 1 := ⟨_, rfl⟩
  rw [← hlead]
  by_cases hsmall : -5 ≤ lead ∧ lead < 0
  · rw [if_pos hsmall]
    exact readsFloat_pointed (.inl rfl) (List.forall_mem_append.mpr ⟨hzeros _, hdigit⟩)
      (List.append_ne_nil_of_right_ne_nil _ (List.cons_ne_nil _ _)) x.negative
  rw [if_neg hsmall]
  by_cases hwhole : 0 ≤ lead ∧ lead ≤ 15
  · rw [if_pos hwhole]
    obtain ⟨k, hk, hkLt⟩ : ∃ k, (lead + 1).toNat = k + 1 ∧ k < 16 :=
      ⟨lead.toNat, by omega, by omega⟩
    rw [hk]
    obtain ⟨hdDigit, hf⟩ := List.forall_mem_cons.mp hdigit
    by_cases hlength : (d :: f).length ≤ k + 1
    · rw [if_pos hlength]
      have hw : IsWhole (d :: (f ++ List.replicate (k + 1 - (d :: f).length) '0')) := by
        refine isWhole_of_length_le (List.forall_mem_cons.mpr
          ⟨hdDigit, List.forall_mem_append.mpr ⟨hf, hzeros _⟩⟩) hd ?_
        simp only [List.length_cons, List.length_append, List.length_replicate] at hlength ⊢
        omega
      have hread := readsFloat_pointed hw (hzeros 1) (List.cons_ne_nil _ _) x.negative
      rw [List.append_assoc]
      rwa [List.cons_append, List.append_assoc, ← List.cons_append] at hread
    · rw [if_neg hlength, List.take_succ_cons, List.drop_succ_cons]
      have hw : IsWhole (d :: f.take k) := by
        refine isWhole_of_length_le (List.forall_mem_cons.mpr
          ⟨hdDigit, fun c hc => hf c (List.mem_of_mem_take hc)⟩) hd ?_
        simp only [List.length_cons, List.length_take]
        omega
      refine readsFloat_pointed hw (fun c hc => hf c (List.mem_of_mem_drop hc)) ?_ x.negative
      rw [Ne, List.drop_eq_nil_iff]
      simp only [List.length_cons] at hlength
      omega
  · rw [if_neg hwhole]
    have hlead' : lead = f.length + e := by
      rw [hlead, List.length_cons]
      omega
    have hread := readsFloat_scientific hdigits hscientific hds hlead'
    cases f with
    | nil => exact hread
    | cons c f => exact hread

/-! ### Every number -/

/-- The number is one that a document can hold: an integer of 64 bits, with or without a sign, or a
value of the format. -/
def Fits : Number → Prop
  | int n => -2 ^ 63 ≤ n ∧ n < 2 ^ 64
  | float x => x.Finite

/-- A number that is written is read back as `sent` says. -/
theorem read_render {n : Number} (hn : n.Fits) {rest : List Char} (hrest : Ends rest) :
    read (n.render.toList ++ rest) = some (n.sent, rest) := by
  cases n with
  | float x =>
    obtain ⟨y, hy⟩ := readsFloat_render hn
    have hnil := hy [] ends_nil
    rw [List.append_nil] at hnil
    have hsent : (float x).sent = float y := by simp only [sent, hnil]
    rw [hsent]
    exact hy rest hrest
  | int n =>
    obtain ⟨hleast, hmost⟩ := hn
    cases n with
    | ofNat n =>
      rw [Int.ofNat_eq_natCast] at hmost
      have hw : IsWhole (Nat.toDigits 10 n) := isWhole_toDigits (by omega)
      have hread := readUnsigned_integer hw false hrest
      rw [← read_signed hw, Nat.ofDigitChars_ten_toDigits] at hread
      show read (n.repr.toList ++ rest) = _
      rw [Nat.toList_repr]
      exact hread
    | negSucc n =>
      have hw : IsWhole (Nat.toDigits 10 (n + 1)) := isWhole_toDigits (by omega)
      have hread := readUnsigned_integer hw true hrest
      rw [← read_signed hw, Nat.ofDigitChars_ten_toDigits] at hread
      have hnegative : ofInteger true (n + 1) 0 = some (int (Int.negSucc n)) := by
        unfold ofInteger
        have hle : n + 1 ≤ Nat.pow 2 63 := by
          show n + 1 ≤ 2 ^ 63
          omega
        rw [if_neg (by decide), if_neg (by decide), if_pos ⟨n.succ_ne_zero, hle⟩]
        rfl
      rw [hnegative] at hread
      show read (("-" ++ (n + 1).repr).toList ++ rest) = _
      rw [toList_mark_append rfl, Nat.toList_repr]
      exact hread

/-! ### What is read -/

theorem gather_lt {acc : ℕ} (h : acc < 2 ^ 64) (count : ℕ) (cs : List Char) :
    (gather acc count cs).1 < 2 ^ 64 := by
  induction cs generalizing acc count with
  | nil => exact h
  | cons c cs ih =>
    unfold gather
    split
    · exact h
    · next d =>
      split_ifs with hfits
      · exact ih hfits _
      · exact h

theorem readWhole_lt {cs rest : List Char} {digits dropped : ℕ}
    (h : readWhole cs = some (digits, dropped, rest)) : digits < 2 ^ 64 := by
  cases cs with
  | nil => exact nomatch h
  | cons c cs =>
    unfold readWhole at h
    dsimp only at h
    cases hd : digit? c with
    | none =>
      rw [hd] at h
      exact nomatch h
    | some d =>
      rw [hd] at h
      cases d with
      | zero =>
        change (if startsWithDigit cs = true then none else some (0, 0, cs)) = _ at h
        split_ifs at h
        rw [← (Prod.mk.inj (Option.some.inj h)).1]
        decide
      | succ d =>
        rw [← (Prod.mk.inj (Option.some.inj h)).1]
        refine gather_lt ?_ 0 cs
        rw [digit?_eq] at hd
        split_ifs at hd with hdigit
        have hrange := Rfc3339.isDigit_toNat hdigit
        have hvalue := Option.some.inj hd
        omega

theorem fits_of_ofInteger {negative : Bool} {digits dropped : ℕ} {n : Number}
    (hdigits : digits < 2 ^ 64) (h : ofInteger negative digits dropped = some n) : n.Fits := by
  unfold ofInteger at h
  split_ifs at h with _ _ hsmall
  · obtain ⟨x, hx, rfl⟩ := Option.map_eq_some_iff.mp h
    exact Binary64.finite_of_ofDecimal? hx
  · obtain rfl := Option.some.inj h
    exact ⟨by omega, by omega⟩
  · obtain rfl := Option.some.inj h
    have hle : digits ≤ 2 ^ 63 := hsmall.2
    exact ⟨by omega, by omega⟩
  · obtain ⟨x, hx, rfl⟩ := Option.map_eq_some_iff.mp h
    exact Binary64.finite_of_ofDecimal? hx

theorem fits_of_ending {negative : Bool} (pointed : Bool) {digits dropped : ℕ} {scale : ℤ}
    {tail rest : List Char} {n : Number} (hdigits : pointed = false → digits < 2 ^ 64)
    (h : (match tail with
      | 'e' :: rest | 'E' :: rest => do
        let (power, rest) ← readExponent rest
        let x ← Binary64.ofDecimal? negative digits (scale + power)
        pure (float x, rest)
      | rest =>
        if pointed then do
          let x ← Binary64.ofDecimal? negative digits scale
          pure (float x, rest)
        else do
          let n ← ofInteger negative digits dropped
          pure (n, rest)) = some (n, rest)) : n.Fits := by
  have hfloat {power : ℤ} {tail : List Char}
      (h : (Binary64.ofDecimal? negative digits power >>= fun x => pure (float x, tail)) =
        some (n, rest)) : n.Fits := by
    obtain ⟨x, hx, h⟩ := Option.bind_eq_some_iff.mp h
    obtain ⟨rfl, -⟩ := Prod.mk.inj (Option.some.inj h)
    exact Binary64.finite_of_ofDecimal? hx
  split at h
  · obtain ⟨⟨power, tail⟩, -, h⟩ := Option.bind_eq_some_iff.mp h
    exact hfloat h
  · obtain ⟨⟨power, tail⟩, -, h⟩ := Option.bind_eq_some_iff.mp h
    exact hfloat h
  · split_ifs at h with hpointed
    · exact hfloat h
    · obtain ⟨n', hn, h⟩ := Option.bind_eq_some_iff.mp h
      obtain ⟨rfl, -⟩ := Prod.mk.inj (Option.some.inj h)
      exact fits_of_ofInteger (hdigits (Bool.not_eq_true _ ▸ hpointed)) hn

theorem fits_of_read {cs rest : List Char} {n : Number} (h : read cs = some (n, rest)) :
    n.Fits := by
  unfold read at h
  obtain ⟨⟨digits, dropped, tail⟩, hwhole, h⟩ := Option.bind_eq_some_iff.mp h
  dsimp only at h
  split at h
  · obtain ⟨⟨digits', count, tail'⟩, -, h⟩ := Option.bind_eq_some_iff.mp h
    exact fits_of_ending true (fun h => nomatch h) h
  · exact fits_of_ending false (fun _ => readWhole_lt hwhole) h

theorem exists_cons_of_read {cs : List Char} {r : Number × List Char} (h : read cs = some r) :
    ∃ c tail, cs = c :: tail ∧ (c = '-' ∨ c.isDigit = true) := by
  cases cs with
  | nil => exact nomatch h
  | cons c tail =>
    refine ⟨c, tail, rfl, or_iff_not_imp_left.mpr fun hc => ?_⟩
    unfold read at h
    split at h
    next negative cs hsign =>
    obtain ⟨rfl, rfl⟩ : false = negative ∧ c :: tail = cs := by
      split at hsign
      · next hcons => exact absurd (List.cons.inj hcons).1 hc
      · exact Prod.mk.inj hsign
    obtain ⟨whole, hwhole, -⟩ := Option.bind_eq_some_iff.mp h
    by_contra hdigit
    unfold readWhole at hwhole
    dsimp only at hwhole
    rw [digit?_eq, if_neg hdigit] at hwhole
    exact nomatch hwhole

end Number

end MachineActuator.Json
