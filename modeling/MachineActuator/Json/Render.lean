import MachineActuator.Json.Basic

/-! # Writing JSON

The compact form of a value: no spaces, fields in the order they are stored, and in strings only
the quote, the backslash and control characters escaped. -/

namespace MachineActuator.Json

/-- A digit of base sixteen. -/
def hexDigit (n : Nat) : Char :=
  if n < 10 then Char.ofNat ('0'.toNat + n) else Char.ofNat ('a'.toNat + (n - 10))

/-- One character inside a string. -/
def escape (c : Char) : List Char :=
  if c = '"' then ['\\', '"']
  else if c = '\\' then ['\\', '\\']
  else if c = '\x08' then ['\\', 'b']
  else if c = '\x0c' then ['\\', 'f']
  else if c = '\n' then ['\\', 'n']
  else if c = '\r' then ['\\', 'r']
  else if c = '\t' then ['\\', 't']
  else if c < ' ' then ['\\', 'u', '0', '0', hexDigit (c.toNat / 16), hexDigit (c.toNat % 16)]
  else [c]

def quote (s : String) : String :=
  String.ofList ('"' :: (s.toList.flatMap escape ++ ['"']))

mutual

/-- The compact text of a value. -/
def render : Json → String
  | .null => "null"
  | .bool true => "true"
  | .bool false => "false"
  | .num n => n.render
  | .str s => quote s
  | .arr [] => "[]"
  | .arr (x :: xs) => "[" ++ render x ++ renderItems xs ++ "]"
  | .obj [] => "\x7b\x7d"
  | .obj ((k, x) :: xs) => "\x7b" ++ quote k ++ ":" ++ render x ++ renderFields xs ++ "\x7d"
termination_by structural v => v

/-- The items after the first, each behind a comma. -/
def renderItems : List Json → String
  | [] => ""
  | x :: xs => "," ++ render x ++ renderItems xs
termination_by structural v => v

/-- The fields after the first, each behind a comma. -/
def renderFields : List (String × Json) → String
  | [] => ""
  | (k, x) :: xs => "," ++ quote k ++ ":" ++ render x ++ renderFields xs
termination_by structural v => v

end

end MachineActuator.Json
