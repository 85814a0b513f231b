import MachineActuator.Machine.Scope

/-! # Upkeep of nodes

A node belongs to the virtual machine of its name.  A node without one is deleted, a node whose
virtual machine is ready gets its provider id, and as long as it is not ready the node is looked at
again later. -/

namespace MachineActuator

/-- What a node needs. -/
inductive NodeAction where
  | delete
  | requeueAfter (delay : Duration)
  | setProviderId (providerId : String)
  | nothing
deriving DecidableEq

namespace Node

/-- The delay while the virtual machine of a node is not ready. -/
def notReadyDelay : Duration := .ofSeconds 60

/-- What a node needs, given its virtual machine if there is one. -/
def plan (node : Node) (vm : Option VirtualMachine) (infraNs : String) : NodeAction :=
  match vm with
  | none => .delete
  | some vm =>
    if !vm.observedStatus.ready then .requeueAfter notReadyDelay
    else if node.providerId.isEmpty then
      .setProviderId (providerIdOf infraNs node.metadata.displayName)
    else .nothing

/-- Carries out what a node needs. -/
def carryOut (name : String) (action : NodeAction) :
    Program (Except ControllerError NodeAction) := do
  match action with
  | .delete =>
    Program.log .info (name ++
      ": Virtual Machine of this node doesn't exist - delete the node")
    match ← Program.tenant (.deleteNode name) with
    | .ok () => pure (.ok action)
    | .error e =>
      if e.isNotFound then
        Program.log .debug (name ++ ": Node already deleted")
        pure (.ok action)
      else pure (.error (.nodeUpdate name "Error deleting Node" e))
  | .requeueAfter delay =>
    Program.log .info (name ++ ": Virtual Machine of this node isn't ready - requeue after " ++
      Nat.repr delay.seconds ++ "s")
    pure (.ok action)
  | .setProviderId providerId =>
    Program.log .info (name ++ ": ProviderID is not set on the node - setting it to " ++
      providerId)
    match ← Program.tenant (.patchNodeProviderId name providerId) with
    | .ok () => pure (.ok action)
    | .error e => pure (.error (.nodeUpdate name "failed updating node" e))
  | .nothing =>
    Program.log .debug (name ++ ": Node is up to date")
    pure (.ok action)

/-- Looks up the virtual machine of a node and does what the node needs. -/
def upkeep (infraNs : String) (node : Node) : Program (Except ControllerError NodeAction) := do
  let name := node.metadata.displayName
  Program.log .debug (name ++ ": Reconciling node")
  match ← Program.infra (.getVirtualMachine infraNs name) with
  | .ok vm => carryOut name (plan node (some vm) infraNs)
  | .error e =>
    if e.isNotFound then carryOut name (plan node none infraNs)
    else pure (.error (.nodeUpdate name "Error getting Virtual Machine" e))

end Node

end MachineActuator
