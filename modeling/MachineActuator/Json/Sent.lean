import MachineActuator.Json.Basic

/-! # Values on the wire

A value that goes from one program to another is written as text and read again.  All of it comes
through unchanged but binary64 numbers: reading may land beside the number that was written, since
it rounds the digits and the power of ten on their own (`Number.sent`). -/

namespace MachineActuator.Json

/-- A number after it was written and read again. -/
def Number.sent : Number → Number
  | int n => int n
  | float x =>
    match read x.render.toList with
    | some (n, _) => n
    | none => float x

mutual

/-- A value after it was written and read again. -/
def sent : Json → Json
  | .num n => .num n.sent
  | .arr items => .arr (sentItems items)
  | .obj fields => .obj (sentFields fields)
  | v => v
termination_by structural v => v

/-- `sent` for all items. -/
def sentItems : List Json → List Json
  | [] => []
  | x :: xs => sent x :: sentItems xs
termination_by structural v => v

/-- `sent` for all field values. -/
def sentFields : List (String × Json) → List (String × Json)
  | [] => []
  | (k, x) :: xs => (k, sent x) :: sentFields xs
termination_by structural v => v

end

theorem sentItems_eq_map (items : List Json) : sentItems items = items.map sent := by
  induction items with
  | nil => rfl
  | cons x xs ih => simp [sentItems, ih]

theorem sentFields_eq_map (fields : List (String × Json)) :
    sentFields fields = fields.map fun e => (e.1, sent e.2) := by
  induction fields with
  | nil => rfl
  | cons e es ih => simp [sentFields, ih]

end MachineActuator.Json
