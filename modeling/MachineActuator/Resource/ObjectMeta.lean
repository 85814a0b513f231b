import MachineActuator.Json.Decode
import MachineActuator.Time.Rfc3339

/-! # Object metadata

What every object of the two clusters carries besides its own content: its name and namespace, the
labels and annotations, and what the API server keeps track of.  A field that is null counts as
absent, and only fields that are present are written; a text that has to be there is empty when it
is absent. -/

namespace MachineActuator

/-- A time in text form. -/
def Json.time? (v : Json) : Option Instant := v.str? >>= Rfc3339.read?

/-- A time cut to the second, as JSON. -/
def Json.ofWholeTime (t : Instant) : Json := .str (Rfc3339.writeWhole t)

def Json.ofInt (n : Int) : Json := .num (.int n)

/-- An object that another object belongs to. -/
structure OwnerReference where
  apiVersion : String
  kind : String
  name : String
  uid : String
  controller : Option Bool := none
  blockOwnerDeletion : Option Bool := none
deriving DecidableEq

/-- The fields of an object that one of its managers has set. -/
structure ManagedFields where
  apiVersion : Option String := none
  fieldsType : Option String := none
  /-- The set of fields, in a form of its own. -/
  fields : Option Json := none
  manager : Option String := none
  operation : Option String := none
  subresource : Option String := none
  time : Option Instant := none
deriving DecidableEq

structure ObjectMeta where
  name : Option String := none
  generateName : Option String := none
  ns : Option String := none
  labels : Option (StringMap String) := none
  annotations : Option (StringMap String) := none
  uid : Option String := none
  resourceVersion : Option String := none
  generation : Option Int := none
  finalizers : Option (List String) := none
  creationTimestamp : Option Instant := none
  deletionTimestamp : Option Instant := none
  deletionGracePeriodSeconds : Option Int := none
  ownerReferences : Option (List OwnerReference) := none
  managedFields : Option (List ManagedFields) := none
  selfLink : Option String := none
deriving DecidableEq

/-! ### Comparing -/

/-- Equality up to the sign of float zeros in the set of fields. -/
def ManagedFields.same (a b : ManagedFields) : Bool :=
  decide ({ a with fields := none } = { b with fields := none }) &&
    Json.sameOption Json.same a.fields b.fields

/-- Equality up to the sign of float zeros in the managed fields. -/
def ObjectMeta.same (a b : ObjectMeta) : Bool :=
  decide ({ a with managedFields := none } = { b with managedFields := none }) &&
    Json.sameOption (fun x y => x.isEqv y ManagedFields.same) a.managedFields b.managedFields

/-! ### Reading and writing -/

def OwnerReference.ofJson? (v : Json) : Option OwnerReference := do
  let fields ← v.object?
  let apiVersion ← Json.textOrEmpty fields "apiVersion"
  let kind ← Json.textOrEmpty fields "kind"
  let name ← Json.textOrEmpty fields "name"
  let uid ← Json.textOrEmpty fields "uid"
  let controller ← Json.optional fields "controller" Json.bool?
  let blockOwnerDeletion ← Json.optional fields "blockOwnerDeletion" Json.bool?
  pure { apiVersion, kind, name, uid, controller, blockOwnerDeletion }

def OwnerReference.toJson (r : OwnerReference) : Json :=
  .ofFields
    [("apiVersion", some (.str r.apiVersion)),
     ("blockOwnerDeletion", r.blockOwnerDeletion.map .bool),
     ("controller", r.controller.map .bool),
     ("kind", some (.str r.kind)),
     ("name", some (.str r.name)),
     ("uid", some (.str r.uid))]

def ManagedFields.ofJson? (v : Json) : Option ManagedFields := do
  let fields ← v.object?
  let apiVersion ← Json.optional fields "apiVersion" Json.str?
  let fieldsType ← Json.optional fields "fieldsType" Json.str?
  let set ← Json.optional fields "fieldsV1" some
  let manager ← Json.optional fields "manager" Json.str?
  let operation ← Json.optional fields "operation" Json.str?
  let subresource ← Json.optional fields "subresource" Json.str?
  let time ← Json.optional fields "time" Json.time?
  pure { apiVersion, fieldsType, fields := set, manager, operation, subresource, time }

def ManagedFields.toJson (m : ManagedFields) : Json :=
  .ofFields
    [("apiVersion", m.apiVersion.map .str),
     ("fieldsType", m.fieldsType.map .str),
     ("fieldsV1", m.fields),
     ("manager", m.manager.map .str),
     ("operation", m.operation.map .str),
     ("subresource", m.subresource.map .str),
     ("time", m.time.map .ofWholeTime)]

namespace ObjectMeta

/-- The name, or else the stem that names are generated from, or else the empty name. -/
def displayName (m : ObjectMeta) : String := (m.name <|> m.generateName).getD ""

def ofJson? (v : Json) : Option ObjectMeta := do
  let fields ← v.object?
  let name ← Json.optional fields "name" Json.str?
  let generateName ← Json.optional fields "generateName" Json.str?
  let ns ← Json.optional fields "namespace" Json.str?
  let labels ← Json.optional fields "labels" (Json.map? Json.str?)
  let annotations ← Json.optional fields "annotations" (Json.map? Json.str?)
  let uid ← Json.optional fields "uid" Json.str?
  let resourceVersion ← Json.optional fields "resourceVersion" Json.str?
  let generation ← Json.optional fields "generation" Json.int64?
  let finalizers ← Json.optional fields "finalizers" (Json.list? Json.str?)
  let creationTimestamp ← Json.optional fields "creationTimestamp" Json.time?
  let deletionTimestamp ← Json.optional fields "deletionTimestamp" Json.time?
  let deletionGracePeriodSeconds ←
    Json.optional fields "deletionGracePeriodSeconds" Json.int64?
  let ownerReferences ←
    Json.optional fields "ownerReferences" (Json.list? OwnerReference.ofJson?)
  let managedFields ← Json.optional fields "managedFields" (Json.list? ManagedFields.ofJson?)
  let selfLink ← Json.optional fields "selfLink" Json.str?
  pure
    { name, generateName, ns, labels, annotations, uid, resourceVersion, generation, finalizers,
      creationTimestamp, deletionTimestamp, deletionGracePeriodSeconds, ownerReferences,
      managedFields, selfLink }

/-- Metadata as JSON; times are cut to the second. -/
def toJson (m : ObjectMeta) : Json :=
  .ofFields
    [("annotations", m.annotations.map .ofStrings),
     ("creationTimestamp", m.creationTimestamp.map .ofWholeTime),
     ("deletionGracePeriodSeconds", m.deletionGracePeriodSeconds.map .ofInt),
     ("deletionTimestamp", m.deletionTimestamp.map .ofWholeTime),
     ("finalizers", m.finalizers.map (.ofList .str)),
     ("generateName", m.generateName.map .str),
     ("generation", m.generation.map .ofInt),
     ("labels", m.labels.map .ofStrings),
     ("managedFields", m.managedFields.map (.ofList ManagedFields.toJson)),
     ("name", m.name.map .str),
     ("namespace", m.ns.map .str),
     ("ownerReferences", m.ownerReferences.map (.ofList OwnerReference.toJson)),
     ("resourceVersion", m.resourceVersion.map .str),
     ("selfLink", m.selfLink.map .str),
     ("uid", m.uid.map .str)]

end ObjectMeta

end MachineActuator
