/-! # Binary64 numbers

The finite values of the IEEE 754 binary64 format as exact integers `± mantissa * 2 ^ exponent`,
with rounding to nearest, product and quotient, and the shortest decimal form: the fewest digits
that round back to the value, of those the nearest, and the even one on a tie. -/

namespace MachineActuator

/-- The finite value `± mantissa * 2 ^ exponent`, as `nearest?` normalises it. -/
structure Binary64 where
  negative : Bool
  mantissa : Nat
  exponent : Int
deriving DecidableEq

namespace Binary64

/-! ### Rounding -/

/-- The quotient rounded to an integer, a half going to the even neighbour. -/
def roundDiv (num den : Nat) : Nat :=
  let q := num / den
  let r := num % den
  if 2 * r < den then q else if den < 2 * r then q + 1 else q + q % 2

/-- The fraction `num / den / 2 ^ e`, as numerator and denominator. -/
def scale (num den : Nat) (e : Int) : Nat × Nat :=
  match e with
  | .ofNat k => (num, den * Nat.pow 2 k)
  | .negSucc k => (num * Nat.pow 2 (k + 1), den)

/-- The fraction `num / den * 10 ^ e`, as numerator and denominator. -/
def scaleTen (num den : Nat) (e : Int) : Nat × Nat :=
  match e with
  | .ofNat k => (num * Nat.pow 10 k, den)
  | .negSucc k => (num, den * Nat.pow 10 (k + 1))

/-- The exponent at which the positive fraction has a mantissa of 53 bits, or the least one. -/
def exponentOf (num den : Nat) : Int :=
  let e : Int := (Nat.log2 num : Int) - Nat.log2 den - 52
  let (n, d) := scale num den e
  max (if n < Nat.pow 2 52 * d then e - 1 else e) (-1074)

/-- Mantissa and exponent nearest to the fraction; none beyond the largest finite value. -/
def nearest? (num den : Nat) : Option (Nat × Int) :=
  if num = 0 then some (0, -1074)
  else
    let e := exponentOf num den
    let (n, d) := scale num den e
    let m := roundDiv n d
    let (m, e) := if m = Nat.pow 2 53 then (Nat.pow 2 52, e + 1) else (m, e)
    if 971 < e then none else some (m, e)

/-- The value nearest to the signed fraction. -/
def ofRatio? (negative : Bool) (num den : Nat) : Option Binary64 :=
  (nearest? num den).map fun (m, e) => ⟨negative, m, e⟩

/-- The magnitude as a fraction. -/
def toRatio (x : Binary64) : Nat × Nat :=
  match x.exponent with
  | .ofNat k => (x.mantissa * Nat.pow 2 k, 1)
  | .negSucc k => (x.mantissa, Nat.pow 2 (k + 1))

/-- Both zeros are one value, every other value equals itself alone. -/
def same (x y : Binary64) : Bool :=
  x = y || (x.mantissa = 0 && y.mantissa = 0)

theorem same_refl (x : Binary64) : x.same x = true := by simp [same]

/-! ### Arithmetic -/

/-- The product, rounded; none when it is too large. -/
def mul? (x y : Binary64) : Option Binary64 :=
  let (a, b) := x.toRatio
  let (c, d) := y.toRatio
  ofRatio? (x.negative != y.negative) (a * c) (b * d)

/-- The quotient by a value other than zero, rounded. -/
def div? (x y : Binary64) : Option Binary64 :=
  let (a, b) := x.toRatio
  let (c, d) := y.toRatio
  ofRatio? (x.negative != y.negative) (a * d) (b * c)

/-- The value nearest to a power of ten. -/
def powerOfTen? (k : Nat) : Option Binary64 := ofRatio? false (Nat.pow 10 k) 1

/-- Divides so many times by `10 ^ 308`, stopping at zero. -/
def divHuge? (x : Binary64) : Nat → Option Binary64
  | 0 => some x
  | n + 1 =>
    if x.mantissa = 0 then some x
    else do
      let y ← powerOfTen? 308 >>= x.div?
      divHuge? y n

/-- Divides by `10 ^ k`, by `10 ^ 308` at a time while more than that remains. -/
def divPowerOfTen? (x : Binary64) (k : Nat) : Option Binary64 := do
  let steps := (k - 1) / 308
  let y ← x.divHuge? steps
  powerOfTen? (k - 308 * steps) >>= y.div?

/-- Reads `digits * 10 ^ e`: the digits are rounded first, then the product or quotient with the
power of ten.  None when the value is too large. -/
def ofDecimal? (negative : Bool) (digits : Nat) (e : Int) : Option Binary64 := do
  let x ← ofRatio? negative digits 1
  match e with
  | .ofNat k =>
    if k ≤ 308 then
      let p ← powerOfTen? k
      x.mul? p
    else if x.mantissa = 0 then some x
    else none
  | .negSucc k => x.divPowerOfTen? (k + 1)

/-! ### Shortest decimal form -/

/-- Number of decimal digits. -/
def digitCount (n : Nat) : Nat := (Nat.toDigits 10 n).length

/-- The power of ten of the leading digit of a positive fraction. -/
def leadingPower (num den : Nat) : Int :=
  if den ≤ num then (digitCount (num / den) : Int) - 1
  else
    let k := digitCount (den / num)
    if den = num * Nat.pow 10 (k - 1) then -((k : Int) - 1) else -(k : Int)

/-- Whether `digits * 10 ^ e` rounds to the magnitude of `x`. -/
def readsBack (x : Binary64) (digits : Nat) (e : Int) : Bool :=
  let (n, d) := scaleTen digits 1 e
  nearest? n d = some (x.mantissa, x.exponent)

/-- The decimal of `count` digits that reads back as `x`, if there is one: of the two neighbours
on that grid the nearer, the even one when they are equally near. -/
def withDigits? (x : Binary64) (count : Nat) : Option (Nat × Int) :=
  let (num, den) := x.toRatio
  let e : Int := (count : Int) - 1 - leadingPower num den
  let (n, d) := scaleTen num den e
  let low := n / d
  let rest := n % d
  let lowFirst : Bool := 2 * rest < d || (2 * rest == d && low % 2 == 0)
  let (first, second) := if lowFirst then (low, low + 1) else (low + 1, low)
  if x.readsBack first (-e) then some (first, -e)
  else if x.readsBack second (-e) then some (second, -e)
  else none

/-- The exact decimal form. -/
def exact (x : Binary64) : Nat × Int :=
  match x.exponent with
  | .ofNat k => (x.mantissa * Nat.pow 2 k, 0)
  | .negSucc k => (x.mantissa * Nat.pow 5 (k + 1), -((k : Int) + 1))

/-- Drops the zeros at the end of the digits. -/
def stripZeros : Nat → Nat → Int → Nat × Int
  | 0, digits, e => (digits, e)
  | fuel + 1, digits, e =>
    if digits % 10 = 0 then stripZeros fuel (digits / 10) (e + 1) else (digits, e)

/-- The shortest decimal `digits * 10 ^ e` that reads back as a value other than zero. -/
def shortest (x : Binary64) : Nat × Int :=
  let (digits, e) := ((List.range 17).findSome? fun i => x.withDigits? (i + 1)).getD x.exact
  stripZeros (digitCount digits) digits e

/-- Writes the shortest form: positional with at least one place after the point while the
leading digit stands for `10 ^ -5` to `10 ^ 15`, else with an exponent that has a sign. -/
def render (x : Binary64) : String :=
  let sign := if x.negative then "-" else ""
  if x.mantissa = 0 then sign ++ "0.0"
  else
    let (digits, e) := x.shortest
    let ds := Nat.toDigits 10 digits
    let lead : Int := ds.length + e - 1
    let body : List Char :=
      if -5 ≤ lead ∧ lead < 0 then
        '0' :: '.' :: (List.replicate (-lead - 1).toNat '0' ++ ds)
      else if 0 ≤ lead ∧ lead ≤ 15 then
        let whole := (lead + 1).toNat
        if ds.length ≤ whole then ds ++ List.replicate (whole - ds.length) '0' ++ ['.', '0']
        else ds.take whole ++ '.' :: ds.drop whole
      else
        let power := Nat.toDigits 10 lead.natAbs
        let sig := match ds with
          | [d] => [d]
          | d :: rest => d :: '.' :: rest
          | [] => []
        sig ++ 'e' :: (if lead < 0 then '-' else '+') :: power
    sign ++ String.ofList body

end Binary64

end MachineActuator
