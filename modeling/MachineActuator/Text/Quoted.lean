import MachineActuator.Text.Visible

/-! # Quoted text in log lines

A name that may be absent is logged as `None` or as `Some("...")`, with quotes, backslashes and
everything that is not visible escaped. -/

namespace MachineActuator.Quoted

/-- Digits of base sixteen. -/
def hex (n : Nat) : List Char := Nat.toDigits 16 n

/-- One character inside the quotes. -/
def escape (c : Char) : List Char :=
  if c = '\x00' then ['\\', '0']
  else if c = '\t' then ['\\', 't']
  else if c = '\r' then ['\\', 'r']
  else if c = '\n' then ['\\', 'n']
  else if c = '"' ∨ c = '\\' then ['\\', c]
  else if Visible.isVisible c then [c]
  else ['\\', 'u', '\x7b'] ++ hex c.toNat ++ ['\x7d']

/-- The text between quotes. -/
def quote (s : String) : String :=
  String.ofList ('"' :: (s.toList.flatMap escape ++ ['"']))

/-- A text that may be absent. -/
def optional : Option String → String
  | none => "None"
  | some s => "Some(" ++ quote s ++ ")"

end MachineActuator.Quoted
