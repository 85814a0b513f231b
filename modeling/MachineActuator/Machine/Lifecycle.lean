import MachineActuator.Machine.Derivation
import MachineActuator.Machine.Payload
import MachineActuator.Machine.Sync

/-! # The life of a virtual machine

Creating, updating, deleting and looking up the virtual machine behind a machine.  No state is kept
between the operations: each derives the wanted machine anew and looks at the observed one before
it acts.  A step that fails is logged and names the machine, the operation and the step.  A virtual
machine that is missing in an update is usually still on its way, and asks to be looked at again
after a while. -/

namespace MachineActuator.Lifecycle

/-- The delay after a missing virtual machine of a machine that may still be settling. -/
def shortDelay : Duration := .ofSeconds 20

/-- The delay after a missing virtual machine of a machine that was updated recently. -/
def longDelay : Duration := .ofSeconds 180

/-- How long the guest has to shut down when the virtual machine is deleted. -/
def deleteGraceSeconds : Nat := 10

/-- How a scope takes over what was observed. -/
abbrev Sync :=
  Scope → VirtualMachine → VirtualMachineInstance → String →
    Program (Except ControllerError Scope)

/-- Logs a step that failed. -/
def stepFailed {α : Type} (machine : String) (action : MachineAction) (what : String)
    (source : ControllerError) : Program (Except ControllerError α) := do
  let e := ControllerError.step machine action what source
  Program.log .error e.message
  pure (.error e)

/-- Looks up the instance of a virtual machine and takes over what was observed. -/
def observe (sync : Sync) (s : Scope) (vm : VirtualMachine) (action : MachineAction) :
    Program (Except ControllerError Scope) := do
  let vmName := vm.metadata.displayName
  let vmNs := vm.metadata.ns.getD s.infraNs
  match ← Program.infra (.getInstance vmNs vmName) with
  | .error e => stepFailed s.name action "failed to get vmi of the Machine" (.client e)
  | .ok vmi =>
    match ← sync s vm vmi (providerIdOf vmNs vmName) with
    | .error e => stepFailed s.name action "failed to sync the Machine" e
    | .ok synced => pure (.ok synced)

/-- Puts the secret with the payload in place; one that exists already is kept. -/
def ensureSecret (s : Scope) (payload : ByteArray) : Program (Except ControllerError Unit) := do
  match ← Program.infra (.createSecret s.infraNs (s.ignitionSecret payload)) with
  | .ok _ => pure (.ok ())
  | .error e =>
    if e.isAlreadyExists then
      Program.log .debug (s.name ++ ": ignition secret already exists in infracluster")
      pure (.ok ())
    else
      stepFailed s.name .create "failed to create ignition secret in infraCluster" (.client e)

def createVm (s : Scope) (vm : VirtualMachine) :
    Program (Except ControllerError VirtualMachine) := do
  match ← Program.infra (.createVirtualMachine s.infraNs vm) with
  | .error e =>
    stepFailed s.name .create "failed to create Virtual Machine in infraCluster" (.client e)
  | .ok created =>
    Program.log .info (s.name ++ ": VirtualMachine was created in infracluster for the Machine")
    pure (.ok created)

/-- Creates the secret and the virtual machine, and takes over what was observed. -/
def create (sync : Sync) (s : Scope) (payload : ByteArray) :
    Program (Except ControllerError Scope) := do
  match Payload.addHostname payload s.name with
  | .error e => stepFailed s.name .create "failed to add hostname to ignition payload" e
  | .ok payload =>
    match ← ensureSecret s payload with
    | .error e => pure (.error e)
    | .ok () =>
      match s.virtualMachine with
      | .error e => stepFailed s.name .create "failed to build Virtual Machine struct" e
      | .ok vm =>
        match ← createVm s vm with
        | .error e => pure (.error e)
        | .ok created => observe sync s created .create

/-- The error that asks to look again later, because the virtual machine is missing. -/
def awaitVm (s : Scope) (vmNs vmName : String) :
    Program (Except ControllerError (Bool × Scope)) := do
  let now ← Program.now
  let delay := if s.updateAllowedAt shortDelay now then shortDelay else longDelay
  Program.log .warn (s.name ++ ": Virtual Machine " ++ vmNs ++ "/" ++ vmName ++
    " not found in infraCluster, requeue after " ++ Nat.repr delay.seconds ++ "s")
  pure (.error (.requeueAfter s.name delay))

/-- The machine that replaces an observed one: derived anew, with its version and status. -/
def replacement (desired existing : VirtualMachine) : VirtualMachine :=
  { desired with
    metadata := { desired.metadata with resourceVersion := existing.metadata.resourceVersion }
    status := some existing.observedStatus }

/-- The line that tells what a replacement came to. -/
def logReplaced (machine : String) (before after : Option String) : Program Unit :=
  let result :=
    if before = after then "the virtual machine wasn't changed"
    else "the virtual machine was changed - updated successfully"
  Program.log .info (machine ++
    ": VirtualMachine update was called in infracluster for the Machine, result: " ++ result ++
    " (oldVersion = " ++ before.getD "" ++ ", newVersion = " ++ after.getD "" ++ ")")

/-- Replaces an observed virtual machine by the derived one, and takes over what was observed.
Tells whether the version changed. -/
def replace (sync : Sync) (s : Scope) (desired existing : VirtualMachine) :
    Program (Except ControllerError (Bool × Scope)) := do
  match ← Program.infra (.updateVirtualMachine s.infraNs (replacement desired existing)) with
  | .error e =>
    stepFailed s.name .update "failed to update Virtual Machine in infraCluster" (.client e)
  | .ok updated =>
    let before := existing.metadata.resourceVersion
    let after := updated.metadata.resourceVersion
    logReplaced s.name before after
    match ← observe sync s updated .update with
    | .error e => pure (.error e)
    | .ok synced => pure (.ok (before ≠ after, synced))

/-- Brings the virtual machine in line with the machine.  Tells whether it was changed. -/
def update (sync : Sync) (s : Scope) : Program (Except ControllerError (Bool × Scope)) := do
  match s.virtualMachine with
  | .error e => stepFailed s.name .update "failed to build Virtual Machine struct" e
  | .ok desired =>
    let vmName := desired.metadata.displayName
    match ← Program.infra (.getVirtualMachine s.infraNs vmName) with
    | .ok existing => replace sync s desired existing
    | .error e =>
      if e.isNotFound then awaitVm s s.infraNs vmName
      else stepFailed s.name .update "failed to get Virtual Machine from infraCluster" (.client e)

/-- Deletes the virtual machine; one that is absent counts as deleted. -/
def delete (s : Scope) : Program (Except ControllerError Unit) := do
  match ← Program.infra (.getVirtualMachine s.infraNs s.name) with
  | .error e =>
    if e.isNotFound then
      Program.log .info (s.name ++ ": Virtual Machine does not exist (already deleted)")
      pure (.ok ())
    else stepFailed s.name .delete "failed to get Virtual Machine from infraCluster" (.client e)
  | .ok _ =>
    match ← Program.infra (.deleteVirtualMachine s.infraNs s.name deleteGraceSeconds) with
    | .error e =>
      stepFailed s.name .delete "failed to delete Virtual Machine in infraCluster" (.client e)
    | .ok () =>
      Program.log .info (s.name ++ ": VirtualMachine was deleted in infracluster for the Machine")
      pure (.ok ())

def exists? (machine infraNs : String) : Program (Except ControllerError Bool) := do
  Program.log .debug (machine ++ ": check if machine exists")
  match ← Program.infra (.getVirtualMachine infraNs machine) with
  | .ok _ => pure (.ok true)
  | .error e =>
    if e.isNotFound then
      Program.log .info (machine ++ ": Virtual Machine of this Machine does not exist")
      pure (.ok false)
    else stepFailed machine .check "failed to get vm of the Machine" (.client e)

end MachineActuator.Lifecycle
