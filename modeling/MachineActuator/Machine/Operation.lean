import MachineActuator.Machine.Lifecycle
import MachineActuator.Machine.Patch

/-! # Operations on machines

What is done for a machine as a whole: its virtual machine is created, updated, deleted or looked
up, what the scope took over is written back to the tenant cluster, and the outcome is published as
an event.  An update that changed nothing is not worth an event. -/

namespace MachineActuator.Operation

/-- The settings of operations, with the place in the infrastructure from a config map of the tenant
cluster. -/
def loadSettings (ns name : String) (defaults : ProviderDefaults) :
    Program (Except ControllerError Settings) := do
  match ← InfraSettings.load ns name with
  | .error e => pure (.error e)
  | .ok infra =>
    Program.log .info ("Actuator: infrastructure namespace " ++ infra.ns ++ ", infra id " ++
      infra.infraId)
    pure (.ok { infra, defaults })

/-- The key of the payload in a secret of the tenant cluster. -/
def userDataKey : String := "userData"

/-- The payload that a machine boots with, from its secret in the tenant cluster. -/
def payload (s : Scope) : Program (Except ControllerError ByteArray) := do
  let path := s.ns ++ "/" ++ s.providerSpec.ignitionSecretName
  match ← Program.tenant (.getSecret s.ns s.providerSpec.ignitionSecretName) with
  | .error e =>
    if e.isNotFound then
      pure (.error (.invalidConfig ("ignition secret " ++ path ++ " not found")))
    else pure (.error (.client e))
  | .ok secret =>
    match secret.get? userDataKey with
    | some bytes => pure (.ok bytes)
    | none =>
      pure (.error (.invalidConfig ("ignition secret " ++ path ++ " doesn't contain the key " ++
        userDataKey)))

/-- Sends the patch of metadata and specification, if there is one. -/
def patchMachine (before after : Machine) (action : MachineAction) :
    Program (Except ControllerError Unit) := do
  match Machine.patch? before after with
  | none => pure (.ok ())
  | some patch =>
    let name := after.metadata.displayName
    match ← Program.tenant (.patchMachine (after.metadata.ns.getD "") name patch) with
    | .ok _ => pure (.ok ())
    | .error e => pure (.error (.step name action "failed to patch machine" (.client e)))

/-- Sends the patch of the status, if there is one. -/
def patchStatus (before after : Machine) (action : MachineAction) (now : Instant) :
    Program (Except ControllerError Unit) := do
  match Machine.statusPatch? before after now with
  | none => pure (.ok ())
  | some patch =>
    let name := after.metadata.displayName
    match ← Program.tenant (.patchMachineStatus (after.metadata.ns.getD "") name patch) with
    | .ok _ => pure (.ok ())
    | .error e => pure (.error (.step name action "failed to patch machine status" (.client e)))

/-- Writes back what changed on a machine: metadata and specification first, then the status. -/
def persist (before after : Machine) (action : MachineAction) :
    Program (Except ControllerError Unit) := do
  Program.log .debug (after.metadata.displayName ++ ": patching machine")
  match ← patchMachine before after action with
  | .error e => pure (.error e)
  | .ok () =>
    let now ← Program.now
    patchStatus before after action now

/-- Creates the virtual machine of a machine and writes back what was taken over.  An error of the
virtual machine counts before one of writing back. -/
def tryCreate (settings : Settings) (machine : Machine) :
    Program (Except ControllerError Unit) := do
  match Scope.ofMachine settings machine with
  | .error e => pure (.error e)
  | .ok s =>
    Program.log .info (s.name ++ ": actuator creating machine")
    match ← payload s with
    | .error e => pure (.error e)
    | .ok bytes =>
      match ← Lifecycle.create Scope.sync s bytes with
      | .error e =>
        let _ ← persist machine s.machine .create
        pure (.error e)
      | .ok synced => persist machine synced.machine .create

/-- Brings the virtual machine of a machine in line and writes back what was taken over.  Tells
whether the virtual machine was changed. -/
def tryUpdate (settings : Settings) (machine : Machine) :
    Program (Except ControllerError Bool) := do
  match Scope.ofMachine settings machine with
  | .error e => pure (.error e)
  | .ok s =>
    Program.log .info (s.name ++ ": actuator updating machine")
    match ← Lifecycle.update Scope.sync s with
    | .error e =>
      let _ ← persist machine s.machine .update
      pure (.error e)
    | .ok (changed, synced) =>
      match ← persist machine synced.machine .update with
      | .error e => pure (.error e)
      | .ok () => pure (.ok changed)

def tryDelete (settings : Settings) (machine : Machine) :
    Program (Except ControllerError Unit) := do
  match Scope.ofMachine settings machine with
  | .error e => pure (.error e)
  | .ok s =>
    Program.log .info (s.name ++ ": actuator deleting machine")
    Lifecycle.delete s

/-! ### With events -/

def reportSuccess (machine : Machine) (action : MachineAction) (done : String) : Program Unit :=
  Program.publish
    { machine
      severity := .normal
      action
      reason := action.reason
      note := done ++ " Machine " ++ machine.metadata.displayName }

/-- Logs the failure of an operation and publishes it. -/
def reportFailure {α : Type} (machine : Machine) (action : MachineAction) (e : ControllerError) :
    Program (Except ControllerError α) := do
  let note := machine.metadata.displayName ++ ": kubevirt wrapper failed to " ++
    action.describe ++ ": " ++ e.message
  Program.log .error note
  Program.publish { machine, severity := .warning, action, reason := action.failedReason, note }
  pure (.error e)

def create (settings : Settings) (machine : Machine) : Program (Except ControllerError Unit) := do
  match ← tryCreate settings machine with
  | .ok () =>
    reportSuccess machine .create "Created"
    pure (.ok ())
  | .error e => reportFailure machine .create e

/-- Brings the virtual machine of a machine in line with it. -/
def update (settings : Settings) (machine : Machine) : Program (Except ControllerError Unit) := do
  match ← tryUpdate settings machine with
  | .ok true =>
    reportSuccess machine .update "Updated"
    pure (.ok ())
  | .ok false => pure (.ok ())
  | .error e => reportFailure machine .update e

/-- Deletes the virtual machine of a machine. -/
def delete (settings : Settings) (machine : Machine) : Program (Except ControllerError Unit) := do
  match ← tryDelete settings machine with
  | .ok () =>
    reportSuccess machine .delete "Deleted"
    pure (.ok ())
  | .error e => reportFailure machine .delete e

def exists? (settings : Settings) (machine : Machine) :
    Program (Except ControllerError Bool) := do
  let name := machine.metadata.displayName
  Program.log .info (name ++ ": actuator checking if machine exists")
  match ← Lifecycle.exists? name settings.infra.ns with
  | .ok found => pure (.ok found)
  | .error e => reportFailure machine .check e

end MachineActuator.Operation
