import MachineActuator.Resource.ObjectMeta

/-! # Claims on persistent storage

How much storage is asked for, of which class and for which use, what it is to be filled with, and
which volumes may serve it. -/

namespace MachineActuator

/-- An amount, given as a text or as an integer and kept as a text. -/
def Json.quantity? : Json → Option String
  | .str s => some s
  | .num (.int n) => some (Json.Number.int n).render
  | _ => none

/-- Amounts a claim asks for and may use at most. -/
structure VolumeResources where
  limits : Option (StringMap String) := none
  requests : Option (StringMap String) := none
deriving DecidableEq

/-- An object of the namespace of a claim that the volume is filled from. -/
structure LocalSource where
  apiGroup : Option String := none
  kind : String
  name : String
deriving DecidableEq

/-- An object of any namespace that the volume is filled from. -/
structure SourceRef where
  apiGroup : Option String := none
  kind : String
  name : String
  ns : Option String := none
deriving DecidableEq

/-- A condition on the value of a label. -/
structure LabelRequirement where
  key : String
  operator : String
  values : Option (List String) := none
deriving DecidableEq

/-- A choice of objects by their labels. -/
structure LabelSelector where
  matchExpressions : Option (List LabelRequirement) := none
  matchLabels : Option (StringMap String) := none
deriving DecidableEq

/-- A claim on persistent storage. -/
structure VolumeClaim where
  accessModes : Option (List String) := none
  dataSource : Option LocalSource := none
  dataSourceRef : Option SourceRef := none
  resources : Option VolumeResources := none
  selector : Option LabelSelector := none
  storageClassName : Option String := none
  volumeAttributesClassName : Option String := none
  volumeMode : Option String := none
  volumeName : Option String := none
deriving DecidableEq

/-! ### Reading and writing -/

def VolumeResources.ofJson? (v : Json) : Option VolumeResources := do
  let fields ← v.object?
  let limits ← Json.optional fields "limits" (Json.map? Json.quantity?)
  let requests ← Json.optional fields "requests" (Json.map? Json.quantity?)
  pure { limits, requests }

def VolumeResources.toJson (r : VolumeResources) : Json :=
  .ofFields [("limits", r.limits.map .ofStrings), ("requests", r.requests.map .ofStrings)]

def LocalSource.ofJson? (v : Json) : Option LocalSource := do
  let fields ← v.object?
  let apiGroup ← Json.optional fields "apiGroup" Json.str?
  let kind ← Json.textOrEmpty fields "kind"
  let name ← Json.textOrEmpty fields "name"
  pure { apiGroup, kind, name }

def LocalSource.toJson (s : LocalSource) : Json :=
  .ofFields
    [("apiGroup", s.apiGroup.map .str), ("kind", some (.str s.kind)), ("name", some (.str s.name))]

def SourceRef.ofJson? (v : Json) : Option SourceRef := do
  let fields ← v.object?
  let apiGroup ← Json.optional fields "apiGroup" Json.str?
  let kind ← Json.textOrEmpty fields "kind"
  let name ← Json.textOrEmpty fields "name"
  let ns ← Json.optional fields "namespace" Json.str?
  pure { apiGroup, kind, name, ns }

def SourceRef.toJson (s : SourceRef) : Json :=
  .ofFields
    [("apiGroup", s.apiGroup.map .str),
     ("kind", some (.str s.kind)),
     ("name", some (.str s.name)),
     ("namespace", s.ns.map .str)]

def LabelRequirement.ofJson? (v : Json) : Option LabelRequirement := do
  let fields ← v.object?
  let key ← Json.textOrEmpty fields "key"
  let operator ← Json.textOrEmpty fields "operator"
  let values ← Json.optional fields "values" (Json.list? Json.str?)
  pure { key, operator, values }

def LabelRequirement.toJson (r : LabelRequirement) : Json :=
  .ofFields
    [("key", some (.str r.key)),
     ("operator", some (.str r.operator)),
     ("values", r.values.map (.ofList .str))]

def LabelSelector.ofJson? (v : Json) : Option LabelSelector := do
  let fields ← v.object?
  let matchExpressions ←
    Json.optional fields "matchExpressions" (Json.list? LabelRequirement.ofJson?)
  let matchLabels ← Json.optional fields "matchLabels" (Json.map? Json.str?)
  pure { matchExpressions, matchLabels }

def LabelSelector.toJson (s : LabelSelector) : Json :=
  .ofFields
    [("matchExpressions", s.matchExpressions.map (.ofList LabelRequirement.toJson)),
     ("matchLabels", s.matchLabels.map .ofStrings)]

def VolumeClaim.ofJson? (v : Json) : Option VolumeClaim := do
  let fields ← v.object?
  let accessModes ← Json.optional fields "accessModes" (Json.list? Json.str?)
  let dataSource ← Json.optional fields "dataSource" LocalSource.ofJson?
  let dataSourceRef ← Json.optional fields "dataSourceRef" SourceRef.ofJson?
  let resources ← Json.optional fields "resources" VolumeResources.ofJson?
  let selector ← Json.optional fields "selector" LabelSelector.ofJson?
  let storageClassName ← Json.optional fields "storageClassName" Json.str?
  let volumeAttributesClassName ← Json.optional fields "volumeAttributesClassName" Json.str?
  let volumeMode ← Json.optional fields "volumeMode" Json.str?
  let volumeName ← Json.optional fields "volumeName" Json.str?
  pure
    { accessModes, dataSource, dataSourceRef, resources, selector, storageClassName,
      volumeAttributesClassName, volumeMode, volumeName }

def VolumeClaim.toJson (c : VolumeClaim) : Json :=
  .ofFields
    [("accessModes", c.accessModes.map (.ofList .str)),
     ("dataSource", c.dataSource.map LocalSource.toJson),
     ("dataSourceRef", c.dataSourceRef.map SourceRef.toJson),
     ("resources", c.resources.map VolumeResources.toJson),
     ("selector", c.selector.map LabelSelector.toJson),
     ("storageClassName", c.storageClassName.map .str),
     ("volumeAttributesClassName", c.volumeAttributesClassName.map .str),
     ("volumeMode", c.volumeMode.map .str),
     ("volumeName", c.volumeName.map .str)]

end MachineActuator
