import MachineActuator.Json.Basic

/-! # Merge patches

`mergePatch` changes a value by a patch as RFC 7386 defines it: an object merges field by field
into the target, a null removes the field, and any other patch takes the target's place. -/

namespace MachineActuator.Json

mutual

def mergePatch (target : Json) : Json → Json
  | .obj patch =>
    match target with
    | .obj fields => .obj (mergeFields fields patch)
    | _ => .obj (mergeFields [] patch)
  | patch => patch
termination_by structural patch => patch

/-- The fields of an object changed by those of a patch, one after the other. -/
def mergeFields (fields : List (String × Json)) : List (String × Json) → List (String × Json)
  | [] => fields
  | (k, .null) :: rest => mergeFields (Entries.erase k fields) rest
  | (k, p) :: rest =>
    mergeFields (Entries.insert k (mergePatch ((Entries.find? k fields).getD .null) p) fields) rest
termination_by structural patch => patch

end

end MachineActuator.Json
