import MachineActuator.Resource.NodeStatus
import MachineActuator.Resource.Secret

/-! # Nodes

The tenant cluster's view of a machine that has joined it. -/

namespace MachineActuator

/-- A mark that keeps work away from a node. -/
structure Taint where
  effect : String
  key : String
  timeAdded : Option Instant := none
  value : Option String := none
deriving DecidableEq

/-- What is set on a node. -/
structure NodeSpec where
  configSource : Option NodeConfigSource := none
  externalId : Option String := none
  podCidr : Option String := none
  podCidrs : Option (List String) := none
  providerId : Option String := none
  taints : Option (List Taint) := none
  unschedulable : Option Bool := none
deriving DecidableEq

structure Node where
  metadata : ObjectMeta := {}
  spec : Option NodeSpec := none
  status : Option NodeStatus := none
deriving DecidableEq

def Taint.ofJson? (v : Json) : Option Taint := do
  let fields ← v.object?
  let effect ← Json.textOrEmpty fields "effect"
  let key ← Json.textOrEmpty fields "key"
  let timeAdded ← Json.optional fields "timeAdded" Json.time?
  let value ← Json.optional fields "value" Json.str?
  pure { effect, key, timeAdded, value }

def Taint.toJson (t : Taint) : Json :=
  .ofFields
    [("effect", some (.str t.effect)),
     ("key", some (.str t.key)),
     ("timeAdded", t.timeAdded.map .ofWholeTime),
     ("value", t.value.map .str)]

def NodeSpec.ofJson? (v : Json) : Option NodeSpec := do
  let fields ← v.object?
  let configSource ← Json.optional fields "configSource" NodeConfigSource.ofJson?
  let externalId ← Json.optional fields "externalID" Json.str?
  let podCidr ← Json.optional fields "podCIDR" Json.str?
  let podCidrs ← Json.optional fields "podCIDRs" (Json.list? Json.str?)
  let providerId ← Json.optional fields "providerID" Json.str?
  let taints ← Json.optional fields "taints" (Json.list? Taint.ofJson?)
  let unschedulable ← Json.optional fields "unschedulable" Json.bool?
  pure { configSource, externalId, podCidr, podCidrs, providerId, taints, unschedulable }

def NodeSpec.toJson (s : NodeSpec) : Json :=
  .ofFields
    [("configSource", s.configSource.map NodeConfigSource.toJson),
     ("externalID", s.externalId.map .str),
     ("podCIDR", s.podCidr.map .str),
     ("podCIDRs", s.podCidrs.map (.ofList .str)),
     ("providerID", s.providerId.map .str),
     ("taints", s.taints.map (.ofList Taint.toJson)),
     ("unschedulable", s.unschedulable.map .bool)]

def Node.ofJson? (v : Json) : Option Node := do
  let fields ← v.coreObject? "Node"
  let metadata ← Json.optional fields "metadata" ObjectMeta.ofJson?
  let spec ← Json.optional fields "spec" NodeSpec.ofJson?
  let status ← Json.optional fields "status" NodeStatus.ofJson?
  pure { metadata := metadata.getD {}, spec, status }

def Node.toJson (n : Node) : Json :=
  .ofFields
    [("apiVersion", some (.str "v1")),
     ("kind", some (.str "Node")),
     ("metadata", some n.metadata.toJson),
     ("spec", n.spec.map NodeSpec.toJson),
     ("status", n.status.map NodeStatus.toJson)]

/-- The provider id, empty when none is set. -/
def Node.providerId (n : Node) : String := (n.spec >>= (·.providerId)).getD ""

end MachineActuator
