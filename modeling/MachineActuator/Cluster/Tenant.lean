import MachineActuator.Cluster.Infra
import MachineActuator.Json.MergePatch

/-! # A tenant cluster in memory

The cluster that owns the machines and nodes, as far as its clients can tell.  A patch of a machine
is recorded, merged into the stored machine and read back; it fails when the result is no machine.
Operations can be made to fail, and then leave everything as it was. -/

namespace MachineActuator

/-- The kinds of calls, each of which can be made to fail. -/
inductive TenantOperation where
  | patchMachine
  | patchMachineStatus
  | getSecret
  | getConfigMapValue
  | deleteNode
  | patchNodeProviderId
deriving DecidableEq

def TenantCall.operation : TenantCall → TenantOperation
  | patchMachine .. => .patchMachine
  | patchMachineStatus .. => .patchMachineStatus
  | getSecret .. => .getSecret
  | getConfigMapValue .. => .getConfigMapValue
  | deleteNode .. => .deleteNode
  | patchNodeProviderId .. => .patchNodeProviderId

structure TenantCluster where
  machines : Store Machine := .empty
  /-- Patches of metadata and specification so far, the first one first. -/
  machinePatches : List Json := []
  /-- Patches of the status so far, the first one first. -/
  statusPatches : List Json := []
  secrets : Store Secret := .empty
  configMaps : Store (StringMap String) := .empty
  nodes : String → Option Node := fun _ => none
  /-- Kinds of calls that fail, with the text of the error. -/
  failures : TenantOperation → Option String := fun _ => none

namespace TenantCluster

def applyPatch (c : TenantCluster) (ns name : String) (patch : Json) :
    Except ClientError Machine × TenantCluster :=
  match c.machines ns name with
  | none => (.error (.notFound (objectPath "Machine" ns name)), c)
  | some stored =>
    match Machine.ofJson? (stored.toJson.mergePatch patch) with
    | none => (.error (.serialization "the patched object is not a machine"), c)
    | some patched => (.ok patched, { c with machines := c.machines.put ns name patched })

/-- The text under a key of a config map. -/
def configMapValue (c : TenantCluster) (ns name key : String) : Except ClientError String :=
  match c.configMaps ns name with
  | none => .error (.notFound (objectPath "ConfigMap" ns name))
  | some values => orMissingKey ns name key (values.get? key)

/-- The nodes with one of them set or taken away. -/
def setNode (nodes : String → Option Node) (name : String) (node : Option Node) :
    String → Option Node := fun n => if n = name then node else nodes n

def deleteNode (c : TenantCluster) (name : String) : Except ClientError Unit × TenantCluster :=
  match c.nodes name with
  | none => (.error (.notFound ("Node " ++ name)), c)
  | some _ => (.ok (), { c with nodes := setNode c.nodes name none })

def withProviderId (node : Node) (providerId : String) : Node :=
  { node with spec := some { node.spec.getD {} with providerId := some providerId } }

def patchNodeProviderId (c : TenantCluster) (name providerId : String) :
    Except ClientError Unit × TenantCluster :=
  match c.nodes name with
  | none => (.error (.notFound ("Node " ++ name)), c)
  | some node =>
    (.ok (), { c with nodes := setNode c.nodes name (some (withProviderId node providerId)) })

/-- Carries out a call that is not made to fail. -/
def perform (c : TenantCluster) :
    (call : TenantCall) → Except ClientError call.Result × TenantCluster
  | .patchMachine ns name patch =>
    { c with machinePatches := c.machinePatches ++ [patch] }.applyPatch ns name patch
  | .patchMachineStatus ns name patch =>
    { c with statusPatches := c.statusPatches ++ [patch] }.applyPatch ns name patch
  | .getSecret ns name => (orNotFound "Secret" ns name (c.secrets ns name), c)
  | .getConfigMapValue ns name key => (c.configMapValue ns name key, c)
  | .deleteNode name => c.deleteNode name
  | .patchNodeProviderId name providerId => c.patchNodeProviderId name providerId

def answer (c : TenantCluster) (call : TenantCall) :
    Except ClientError call.Result × TenantCluster :=
  match c.failures call.operation with
  | some text => (.error (.api text), c)
  | none => c.perform call

/-! ### Changes from outside -/

/-- Makes a kind of calls fail. -/
def failOn (c : TenantCluster) (operation : TenantOperation) (text : String) : TenantCluster :=
  { c with failures := fun o => if o = operation then some text else c.failures o }

/-- Stores a machine as it is. -/
def addMachine (c : TenantCluster) (machine : Machine) : TenantCluster :=
  { c with
    machines :=
      c.machines.put (machine.metadata.ns.getD "") (machine.metadata.name.getD "") machine }

/-- Stores a secret with these bytes. -/
def addSecret (c : TenantCluster) (ns name : String) (data : StringMap ByteArray) :
    TenantCluster :=
  { c with
    secrets :=
      c.secrets.put ns name
        { metadata := { name := some name, ns := some ns }, data := some data } }

/-- Sets one key of a config map. -/
def addConfigMapValue (c : TenantCluster) (ns name key value : String) : TenantCluster :=
  { c with
    configMaps :=
      c.configMaps.put ns name (((c.configMaps ns name).getD .empty).insert key value) }

/-- Stores a node as it is. -/
def addNode (c : TenantCluster) (node : Node) : TenantCluster :=
  { c with nodes := setNode c.nodes (node.metadata.name.getD "") (some node) }

end TenantCluster

end MachineActuator
