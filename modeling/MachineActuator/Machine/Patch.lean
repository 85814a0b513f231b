import MachineActuator.Resource.Machine

/-! # Patches of a machine

What an operation changed on a machine is written back as two merge patches, one of the metadata
and the specification and one of the status.  A patch names only what differs between the machine
that was read and the machine that is wanted; where nothing differs there is no patch. -/

namespace MachineActuator

namespace StringMap

/-- The entries that are new or have another value. -/
def changedEntries (before after : StringMap String) : List (String × Json) :=
  after.entries.filterMap fun (k, v) =>
    if before.get? k = some v then none else some (k, Json.str v)

/-- The keys that are gone, as nulls. -/
def removedEntries (before after : StringMap String) : List (String × Json) :=
  before.entries.filterMap fun (k, _) => if after.contains k then none else some (k, Json.null)

/-- What has to be merged into `before` to get `after`. -/
def patchFields (before after : StringMap String) : List (String × Json) :=
  (removedEntries before after).foldl (fun fields (k, v) => Entries.insert k v fields)
    (changedEntries before after)

/-- The patch from one map to another; an absent map counts as empty. -/
def patch? (before after : Option (StringMap String)) : Option Json :=
  match patchFields (before.getD .empty) (after.getD .empty) with
  | [] => none
  | fields => some (.obj fields)

end StringMap

namespace Json

/-- An object of the fields that are present, if there are any. -/
def nonemptyFields? (fields : List (String × Option Json)) : Option Json :=
  match fields.filterMap fun (k, v) => v.map (k, ·) with
  | [] => none
  | fields => some (.obj fields)

end Json

namespace Machine

/-- The provider id as a patch has it, when it differs. -/
def providerIdPatch? (before after : Option String) : Option Json :=
  if before = after then none else some (.field "providerID" ((after.map .str).getD .null))

/-- The patch of labels, annotations and provider id. -/
def patch? (before after : Machine) : Option Json :=
  Json.nonemptyFields?
    [("metadata", Json.nonemptyFields?
        [("annotations", StringMap.patch? before.metadata.annotations after.metadata.annotations),
         ("labels", StringMap.patch? before.metadata.labels after.metadata.labels)]),
     ("spec", providerIdPatch? before.spec.providerId after.spec.providerId)]

/-- The patch of addresses and provider status, stamped with the time. -/
def statusPatch? (before after : Machine) (now : Instant) : Option Json :=
  let known := before.status.getD {}
  let wanted := after.status.getD {}
  let addresses :=
    if known.addresses = wanted.addresses then none
    else some (Json.ofList NodeAddress.toJson wanted.addresses)
  let providerStatus :=
    if Json.sameOption Json.same known.providerStatus wanted.providerStatus then none
    else some (wanted.providerStatus.getD .null)
  if addresses.isNone ∧ providerStatus.isNone then none
  else
    some (.field "status" (.ofFields
      [("addresses", addresses),
       ("lastUpdated", some (.str (Rfc3339.writeWhole now))),
       ("providerStatus", providerStatus)]))

end Machine

end MachineActuator
