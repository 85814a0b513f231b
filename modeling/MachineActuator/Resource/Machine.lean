import MachineActuator.Resource.NodeAddress

/-! # Machines

The object of the tenant cluster that asks for a virtual machine.  What the provider needs to know,
and what it reports back, are JSON documents of its own inside the machine. -/

namespace MachineActuator

/-- Label with the id of the tenant cluster that a machine belongs to. -/
def clusterIdLabel : String := "machine.openshift.io/cluster-api-cluster"

/-- Label with the kind of machine behind a machine. -/
def instanceTypeLabel : String := "machine.openshift.io/instance-type"

/-- Annotation with the state of the virtual machine behind a machine. -/
def instanceStateAnnotation : String := "machine.openshift.io/instance-state"

/-- Annotation with the uid of the virtual machine behind a machine. -/
def vmIdAnnotation : String := "VmId"

/-- What a machine asks for. -/
structure MachineSpec where
  providerSpec : Option Json := none
  providerId : Option String := none
deriving DecidableEq

/-- What is known of a machine. -/
structure MachineStatus where
  addresses : List NodeAddress := []
  lastUpdated : Option Instant := none
  providerStatus : Option Json := none
deriving DecidableEq

structure Machine where
  metadata : ObjectMeta := {}
  spec : MachineSpec := {}
  status : Option MachineStatus := none
deriving DecidableEq

/-! ### Reading and writing -/

/-- Reads the document that a provider specification wraps. -/
def MachineSpec.wrapped? (v : Json) : Option (Option Json) := do
  let fields ← v.record? ["value"] 0
  Json.optional fields "value" some

def MachineSpec.ofJson? (v : Json) : Option MachineSpec := do
  let fields ← v.record? ["providerSpec", "providerID"] 0
  let providerSpec ← Json.orElse fields "providerSpec" MachineSpec.wrapped? none
  let providerId ← Json.optional fields "providerID" Json.str?
  pure { providerSpec, providerId }

def MachineSpec.toJson (s : MachineSpec) : Json :=
  .ofFields
    [("providerID", s.providerId.map .str),
     ("providerSpec", some (.ofFields [("value", s.providerSpec)]))]

def MachineStatus.ofJson? (v : Json) : Option MachineStatus := do
  let fields ← v.record? ["addresses", "lastUpdated", "providerStatus"] 0
  let addresses ← Json.orElse fields "addresses" (Json.list? NodeAddress.ofJson?) []
  let lastUpdated ← Json.optional fields "lastUpdated" Json.time?
  let providerStatus ← Json.optional fields "providerStatus" some
  pure { addresses, lastUpdated, providerStatus }

def MachineStatus.toJson (s : MachineStatus) : Json :=
  .ofFields
    [("addresses", Json.ofNonempty NodeAddress.toJson s.addresses),
     ("lastUpdated", s.lastUpdated.map fun t => .str (Rfc3339.write t)),
     ("providerStatus", s.providerStatus)]

def Machine.ofJson? (v : Json) : Option Machine := do
  let fields ← v.record? ["metadata", "spec", "status"] 3
  let metadata ← Json.required fields "metadata" ObjectMeta.ofJson?
  let spec ← Json.required fields "spec" MachineSpec.ofJson?
  let status ← Json.optional fields "status" MachineStatus.ofJson?
  pure { metadata, spec, status }

def Machine.toJson (m : Machine) : Json :=
  .ofFields
    [("apiVersion", some (.str "machine.openshift.io/v1beta1")),
     ("kind", some (.str "Machine")),
     ("metadata", some m.metadata.toJson),
     ("spec", some m.spec.toJson),
     ("status", m.status.map MachineStatus.toJson)]

end MachineActuator
