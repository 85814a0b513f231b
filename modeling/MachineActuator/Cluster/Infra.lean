import MachineActuator.Client.Call
import MachineActuator.Cluster.Store
import MachineActuator.Text.Decimal

/-! # An infrastructure cluster in memory

The cluster that runs the virtual machines, as far as its clients can tell: creating assigns a uid
and the first version, replacing compares the version and counts it up when something changed, and
an instance appears with every new machine.  Operations can be made to fail, and then leave
everything as it was. -/

namespace MachineActuator

/-- The kinds of calls, each of which can be made to fail. -/
inductive InfraOperation where
  | createVirtualMachine
  | getVirtualMachine
  | updateVirtualMachine
  | deleteVirtualMachine
  | getInstance
  | createSecret
deriving DecidableEq

def InfraCall.operation : InfraCall → InfraOperation
  | createVirtualMachine .. => .createVirtualMachine
  | getVirtualMachine .. => .getVirtualMachine
  | updateVirtualMachine .. => .updateVirtualMachine
  | deleteVirtualMachine .. => .deleteVirtualMachine
  | getInstance .. => .getInstance
  | createSecret .. => .createSecret

/-- A deletion that was carried out. -/
structure Deletion where
  ns : String
  name : String
  graceSeconds : Nat
deriving DecidableEq

structure InfraCluster where
  virtualMachines : Store VirtualMachine := .empty
  instances : Store VirtualMachineInstance := .empty
  secrets : Store Secret := .empty
  /-- Deletions so far, the first one first. -/
  deletions : List Deletion := []
  /-- Kinds of calls that fail, with the text of the error. -/
  failures : InfraOperation → Option String := fun _ => none
  /-- Whether an instance appears with every new virtual machine. -/
  spawnsInstances : Bool := true
  /-- One more than the machines created so far, so that it fits 64 bits in every run of fewer
  calls. -/
  nextUid : Nat := 1

namespace InfraCluster

def uid (n : Nat) : String := "00000000-0000-0000-0000-" ++ Decimal.padded 12 n

/-- The version after this one; a version that is no number counts as zero.  Counters have 64 bits,
so that the text after `2 ^ 64 - 1` stands for zero. -/
def nextVersion (version : Option String) : String :=
  Nat.repr (Decimal.counter (version.getD "") + 1)

/-- Whether replacing one machine by another changes what clients own.  Specifications are compared
up to the sign of float zeros. -/
def differs (vm stored : VirtualMachine) : Bool :=
  !vm.spec.same stored.spec || vm.metadata.labels ≠ stored.metadata.labels ||
    vm.metadata.annotations ≠ stored.metadata.annotations

/-- The stored machine with what clients own taken from `vm`, and the next version. -/
def replaced (vm stored : VirtualMachine) : VirtualMachine :=
  { stored with
    spec := vm.spec
    metadata :=
      { stored.metadata with
        labels := vm.metadata.labels
        annotations := vm.metadata.annotations
        resourceVersion := some (nextVersion stored.metadata.resourceVersion) } }

/-- A new machine as the cluster stores it. -/
def admitted (c : InfraCluster) (ns : String) (vm : VirtualMachine) : VirtualMachine :=
  { vm with
    metadata :=
      { vm.metadata with ns := some ns, uid := some (uid c.nextUid), resourceVersion := some "1" }
    status := some {} }

/-- The instance that appears with a new machine. -/
def spawned (ns name : String) (vm : VirtualMachine) : VirtualMachineInstance :=
  { metadata := { name := some name, ns := some ns }
    spec := (vm.spec.template.map (·.spec)).getD {} }

/-- Stores a new machine. -/
def createVirtualMachine (c : InfraCluster) (ns : String) (vm : VirtualMachine) :
    Except ClientError VirtualMachine × InfraCluster :=
  let name := vm.metadata.name.getD ""
  match c.virtualMachines ns name with
  | some _ => (.error (.alreadyExists (objectPath "VirtualMachine" ns name)), c)
  | none =>
    let created := c.admitted ns vm
    (.ok created,
      { c with
        virtualMachines := c.virtualMachines.put ns name created
        instances :=
          if c.spawnsInstances then c.instances.put ns name (spawned ns name created)
          else c.instances
        nextUid := c.nextUid + 1 })

/-- Replaces a stored machine of the same version. -/
def updateVirtualMachine (c : InfraCluster) (ns : String) (vm : VirtualMachine) :
    Except ClientError VirtualMachine × InfraCluster :=
  let name := vm.metadata.name.getD ""
  match c.virtualMachines ns name with
  | none => (.error (.notFound (objectPath "VirtualMachine" ns name)), c)
  | some stored =>
    if vm.metadata.resourceVersion ≠ stored.metadata.resourceVersion then
      (.error (.api (objectPath "VirtualMachine" ns name ++ ": the object has been modified")), c)
    else if differs vm stored then
      (.ok (replaced vm stored),
        { c with virtualMachines := c.virtualMachines.put ns name (replaced vm stored) })
    else (.ok stored, c)

/-- Removes a machine together with its instance. -/
def deleteVirtualMachine (c : InfraCluster) (ns name : String) (graceSeconds : Nat) :
    Except ClientError Unit × InfraCluster :=
  match c.virtualMachines ns name with
  | none => (.error (.notFound (objectPath "VirtualMachine" ns name)), c)
  | some _ =>
    (.ok (),
      { c with
        virtualMachines := c.virtualMachines.remove ns name
        instances := c.instances.remove ns name
        deletions := c.deletions ++ [⟨ns, name, graceSeconds⟩] })

/-- Stores a new secret. -/
def createSecret (c : InfraCluster) (ns : String) (secret : Secret) :
    Except ClientError Secret × InfraCluster :=
  let name := secret.metadata.name.getD ""
  match c.secrets ns name with
  | some _ => (.error (.alreadyExists (objectPath "Secret" ns name)), c)
  | none => (.ok secret, { c with secrets := c.secrets.put ns name secret })

/-- Carries out a call that is not made to fail. -/
def perform (c : InfraCluster) : (call : InfraCall) → Except ClientError call.Result × InfraCluster
  | .createVirtualMachine ns vm => c.createVirtualMachine ns vm
  | .getVirtualMachine ns name =>
    (orNotFound "VirtualMachine" ns name (c.virtualMachines ns name), c)
  | .updateVirtualMachine ns vm => c.updateVirtualMachine ns vm
  | .deleteVirtualMachine ns name grace => c.deleteVirtualMachine ns name grace
  | .getInstance ns name => (orNotFound "VirtualMachineInstance" ns name (c.instances ns name), c)
  | .createSecret ns secret => c.createSecret ns secret

def answer (c : InfraCluster) (call : InfraCall) : Except ClientError call.Result × InfraCluster :=
  match c.failures call.operation with
  | some text => (.error (.api text), c)
  | none => c.perform call

/-! ### Changes from outside -/

/-- Makes a kind of calls fail. -/
def failOn (c : InfraCluster) (operation : InfraOperation) (text : String) : InfraCluster :=
  { c with failures := fun o => if o = operation then some text else c.failures o }

/-- Lets a kind of calls succeed again. -/
def clearFailure (c : InfraCluster) (operation : InfraOperation) : InfraCluster :=
  { c with failures := fun o => if o = operation then none else c.failures o }

/-- Stores a machine as it is. -/
def addVirtualMachine (c : InfraCluster) (vm : VirtualMachine) : InfraCluster :=
  { c with
    virtualMachines :=
      c.virtualMachines.put (vm.metadata.ns.getD "") (vm.metadata.name.getD "") vm }

/-- Stores an instance as it is. -/
def addInstance (c : InfraCluster) (vmi : VirtualMachineInstance) : InfraCluster :=
  { c with
    instances := c.instances.put (vmi.metadata.ns.getD "") (vmi.metadata.name.getD "") vmi }

def setStatus (c : InfraCluster) (ns name : String) (status : VirtualMachineStatus) :
    InfraCluster :=
  match c.virtualMachines ns name with
  | some vm =>
    { c with virtualMachines := c.virtualMachines.put ns name { vm with status := some status } }
  | none => c

end InfraCluster

end MachineActuator
