import MachineActuator.Binary64

/-! # JSON numbers

An integer of the signed or unsigned 64-bit range stays an integer; `-0`, every number with a
fraction or an exponent, and larger integers are binary64 values.  `Number.read` takes a number off
the front of a text: of its digits it keeps as many as fit into 64 bits. -/

namespace MachineActuator.Json

/-- A number: an integer between `-2 ^ 63` and `2 ^ 64 - 1`, or a binary64 value. -/
inductive Number where
  | int (value : Int)
  | float (value : Binary64)
deriving DecidableEq

namespace Number

/-- Equality of numbers: an integer differs from every float, and the two zeros are one float. -/
def same : Number → Number → Bool
  | int a, int b => a = b
  | float a, float b => a.same b
  | _, _ => false

theorem same_refl (n : Number) : n.same n = true := by
  cases n with
  | int a => simp [same]
  | float x => exact x.same_refl

/-- The number in text form. -/
def render : Number → String
  | int (.ofNat n) => Nat.repr n
  | int (.negSucc n) => "-" ++ Nat.repr (n + 1)
  | float x => x.render

/-! ### Reading -/

/-- The value of a decimal digit. -/
def digit? (c : Char) : Option Nat :=
  if '0' ≤ c ∧ c ≤ '9' then some (c.toNat - '0'.toNat) else none

/-- Whether the text goes on with a digit. -/
def startsWithDigit : List Char → Bool
  | c :: _ => (digit? c).isSome
  | [] => false

/-- Appends digits to `acc` while the result stays below `2 ^ 64`, and counts them. -/
def gather (acc count : Nat) : List Char → Nat × Nat × List Char
  | [] => (acc, count, [])
  | c :: rest =>
    match digit? c with
    | none => (acc, count, c :: rest)
    | some d =>
      if acc * 10 + d < Nat.pow 2 64 then gather (acc * 10 + d) (count + 1) rest
      else (acc, count, c :: rest)

/-- Skips digits and counts them. -/
def skipDigits (count : Nat) : List Char → Nat × List Char
  | [] => (count, [])
  | c :: rest => if (digit? c).isSome then skipDigits (count + 1) rest else (count, c :: rest)

/-- Reads digits of any number. -/
def readNat (acc : Nat) : List Char → Nat × List Char
  | [] => (acc, [])
  | c :: rest =>
    match digit? c with
    | some d => readNat (acc * 10 + d) rest
    | none => (acc, c :: rest)

/-- The digits before the point: at least one, and none after a leading zero.  Gives those that
fit, the number of those that were dropped, and the rest. -/
def readWhole : List Char → Option (Nat × Nat × List Char)
  | [] => none
  | c :: rest =>
    match digit? c with
    | none => none
    | some 0 => if startsWithDigit rest then none else some (0, 0, rest)
    | some d =>
      let (digits, _, rest) := gather d 0 rest
      let (dropped, rest) := skipDigits 0 rest
      some (digits, dropped, rest)

/-- The digits after the point, at least one, appended to those before it, with their number. -/
def readFraction (digits : Nat) (rest : List Char) : Option (Nat × Nat × List Char) :=
  if startsWithDigit rest then
    let (digits, count, rest) := gather digits 0 rest
    some (digits, count, (skipDigits 0 rest).2)
  else none

/-- The power of ten after the mark: an optional sign and at least one digit. -/
def readExponent (cs : List Char) : Option (Int × List Char) :=
  let (negative, rest) := match cs with
    | '+' :: rest => (false, rest)
    | '-' :: rest => (true, rest)
    | rest => (false, rest)
  if startsWithDigit rest then
    let (n, rest) := readNat 0 rest
    some (if negative then -(n : Int) else n, rest)
  else none

/-- An integer without point and exponent. -/
def ofInteger (negative : Bool) (digits dropped : Nat) : Option Number :=
  if dropped ≠ 0 then (Binary64.ofDecimal? negative digits dropped).map float
  else if !negative then some (int digits)
  else if digits ≠ 0 ∧ digits ≤ Nat.pow 2 63 then some (int (-(digits : Int)))
  else (Binary64.ofDecimal? true digits 0).map float

/-- Reads the number at the front of a text. -/
def read (cs : List Char) : Option (Number × List Char) := do
  let (negative, cs) := match cs with
    | '-' :: rest => (true, rest)
    | cs => (false, cs)
  let (digits, dropped, rest) ← readWhole cs
  let (digits, scale, pointed, rest) ← match rest with
    | '.' :: rest => do
      let (digits, count, rest) ← readFraction digits rest
      pure (digits, (dropped : Int) - count, true, rest)
    | rest => pure (digits, (dropped : Int), false, rest)
  match rest with
  | 'e' :: rest | 'E' :: rest =>
    let (power, rest) ← readExponent rest
    let x ← Binary64.ofDecimal? negative digits (scale + power)
    pure (float x, rest)
  | rest =>
    if pointed then
      let x ← Binary64.ofDecimal? negative digits scale
      pure (float x, rest)
    else
      let n ← ofInteger negative digits dropped
      pure (n, rest)

end Number

end MachineActuator.Json
