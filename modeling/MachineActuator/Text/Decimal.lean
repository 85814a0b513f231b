/-! # Decimal text

Natural numbers with a fixed number of digits, and counters of 64 bits read back from text. -/

namespace MachineActuator.Decimal

/-- A number with zeros in front up to a width. -/
def padded (width n : Nat) : String :=
  let ds := Nat.toDigits 10 n
  String.ofList (List.replicate (width - ds.length) '0' ++ ds)

/-- The value of digits, if there are only digits. -/
def ofDigits? (acc : Nat) : List Char → Option Nat
  | [] => some acc
  | c :: rest => if c.isDigit then ofDigits? (acc * 10 + (c.toNat - '0'.toNat)) rest else none

/-- The number that a text of digits stands for, with or without a plus in front. -/
def nat? (text : String) : Option Nat :=
  let digits := match text.toList with
    | '+' :: rest => rest
    | cs => cs
  if digits.isEmpty then none else ofDigits? 0 digits

/-- The counter of 64 bits that a text stands for, or zero. -/
def counter (text : String) : Nat :=
  match nat? text with
  | some n => if n < Nat.pow 2 64 then n else 0
  | none => 0

end MachineActuator.Decimal
