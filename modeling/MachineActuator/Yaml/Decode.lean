import MachineActuator.Yaml.Value

/-! # Reading records from YAML

Where a kind of value is asked for, tags of the document's own do not count, and a null stands for
an empty list, mapping or record.  A field is required, has a default for when it is missing, or is
optional, in which case a null counts as missing too; it may not be there twice.  A field that is
not declared is ignored. -/

namespace MachineActuator.Yaml.Value

variable {α : Type}

def text? (v : Value) : Option String :=
  match v.untagged with
  | .text s => some s
  | _ => none

def bool? (v : Value) : Option Bool :=
  match v.untagged with
  | .bool b => some b
  | _ => none

def list? (dec : Value → Option α) (v : Value) : Option (List α) :=
  match v.untagged with
  | .list items => items.mapM dec
  | .null => some []
  | _ => none

/-- The entries of a mapping whose keys are texts. -/
def fields? (v : Value) : Option (List (String × Value)) :=
  match v.untagged with
  | .mapping entries => entries.mapM fun (k, v) => do pure (← k.text?, v)
  | .null => some []
  | _ => none

/-- A mapping from texts to texts; of several values of a key the last one counts. -/
def texts? (v : Value) : Option (List (String × String)) := do
  let entries ← (← v.fields?).mapM fun (k, v) => do pure (k, ← v.text?)
  pure entries.reverse

/-! ### Fields -/

def field? (fields : List (String × Value)) (key : String) : Option (Option Value) :=
  match fields.filter (·.1 = key) with
  | [] => some none
  | [(_, v)] => some (some v)
  | _ => none

/-- A field that has to be there. -/
def required (fields : List (String × Value)) (key : String) (dec : Value → Option α) :
    Option α := do
  dec (← (← field? fields key))

/-- A field with a value for when it is missing. -/
def orElse (fields : List (String × Value)) (key : String) (dec : Value → Option α) (absent : α) :
    Option α := do
  match ← field? fields key with
  | none => pure absent
  | some v => dec v

/-- A field that may be missing or null. -/
def optional (fields : List (String × Value)) (key : String) (dec : Value → Option α) :
    Option (Option α) := do
  match ← field? fields key with
  | none | some .null => pure none
  | some v => some <$> dec v

/-! ### Plain data -/

mutual

/-- Whether a value has no tags, other than those of keys, and all its keys are texts. -/
def isPlainData : Value → Bool
  | .list items => arePlainData items
  | .mapping entries => havePlainData entries
  | .tagged .. => false
  | _ => true

/-- The same for the items of a list. -/
def arePlainData : List Value → Bool
  | [] => true
  | v :: rest => isPlainData v && arePlainData rest

/-- The same for the entries of a mapping. -/
def havePlainData : List (Value × Value) → Bool
  | [] => true
  | (k, v) :: rest => k.text?.isSome && isPlainData v && havePlainData rest

end

end MachineActuator.Yaml.Value
