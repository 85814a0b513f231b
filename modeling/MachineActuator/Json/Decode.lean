import MachineActuator.Json.Basic

/-! # Reading records from JSON

A record is read from an object, or from the list of its values in the order of its fields.  A
field is required, has a default for when it is missing, or is optional, in which case a null
counts as missing too.  A field that is not declared is ignored. -/

namespace MachineActuator.Json

variable {α : Type}

/-! ### Scalars -/

/-- A truth value. -/
def bool? : Json → Option Bool
  | .bool b => some b
  | _ => none

/-- An integer within bounds. -/
def intBetween? (low high : Int) : Json → Option Int
  | .num (.int n) => if low ≤ n ∧ n ≤ high then some n else none
  | _ => none

/-- An integer of so many bits and a sign. -/
def signed? (bits : Nat) : Json → Option Int :=
  let bound : Int := Nat.pow 2 bits
  intBetween? (-bound) (bound - 1)

/-- An integer of 64 bits. -/
def int64? : Json → Option Int := signed? 63

/-- An integer of 32 bits. -/
def int32? : Json → Option Int := signed? 31

/-- A natural number below `2 ^ bits`. -/
def nat? (bits : Nat) (v : Json) : Option Nat :=
  (intBetween? 0 (Nat.pow 2 bits - 1) v).map Int.toNat

/-! ### Lists and maps -/

def list? (dec : Json → Option α) : Json → Option (List α)
  | .arr items => items.mapM dec
  | _ => none

/-- The entries of a map read one by one. -/
def readEntries (dec : Json → Option α) (m : StringMap α) :
    List (String × Json) → Option (StringMap α)
  | [] => some m
  | (k, v) :: rest =>
    match dec v with
    | some a => readEntries dec (m.insert k a) rest
    | none => none

def map? (dec : Json → Option α) : Json → Option (StringMap α)
  | .obj fields => readEntries dec .empty fields
  | _ => none

/-! ### Records -/

/-- The fields of a record: those of an object, or the items of a list, at least `least` of them,
under the names in order. -/
def record? (names : List String) (least : Nat) : Json → Option (List (String × Json))
  | .obj fields => some fields
  | .arr items =>
    if least ≤ items.length ∧ items.length ≤ names.length then some (names.zip items) else none
  | _ => none

def object? : Json → Option (List (String × Json))
  | .obj fields => some fields
  | _ => none

/-- A field that has to be there. -/
def required (fields : List (String × Json)) (key : String) (dec : Json → Option α) : Option α :=
  Entries.find? key fields >>= dec

/-- A field with a value for when it is missing. -/
def orElse (fields : List (String × Json)) (key : String) (dec : Json → Option α) (absent : α) :
    Option α :=
  match Entries.find? key fields with
  | none => some absent
  | some v => dec v

/-- A field that may be missing or null. -/
def optional (fields : List (String × Json)) (key : String) (dec : Json → Option α) :
    Option (Option α) :=
  match Entries.find? key fields with
  | none | some .null => some none
  | some v => (dec v).map some

/-- A text that is empty when it is missing or null. -/
def textOrEmpty (fields : List (String × Json)) (key : String) : Option String :=
  (optional fields key str?).map (·.getD "")

end MachineActuator.Json
