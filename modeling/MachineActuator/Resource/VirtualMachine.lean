import MachineActuator.Resource.Instance

/-! # Virtual machines

The object of the infrastructure cluster that stands for one machine of the tenant: how it is kept
running, the volumes made with it, the template of its instance, and the status that the
infrastructure cluster reports. -/

namespace MachineActuator

/-- Whether the instance has been created, and whether it is ready. -/
structure VirtualMachineStatus where
  created : Bool := false
  ready : Bool := false
deriving DecidableEq

structure VirtualMachineSpec where
  runStrategy : Option String := none
  dataVolumeTemplates : List DataVolumeTemplate := []
  template : Option InstanceTemplate := none
deriving DecidableEq

/-- Equality with metadata compared by `ObjectMeta.same`. -/
def VirtualMachineSpec.same (a b : VirtualMachineSpec) : Bool :=
  decide (a.runStrategy = b.runStrategy) &&
    a.dataVolumeTemplates.isEqv b.dataVolumeTemplates DataVolumeTemplate.same &&
    Json.sameOption InstanceTemplate.same a.template b.template

structure VirtualMachine where
  metadata : ObjectMeta := {}
  spec : VirtualMachineSpec := {}
  status : Option VirtualMachineStatus := none
deriving DecidableEq

def VirtualMachineStatus.ofJson? (v : Json) : Option VirtualMachineStatus := do
  let fields ← v.record? ["created", "ready"] 0
  let created ← Json.orElse fields "created" Json.bool? false
  let ready ← Json.orElse fields "ready" Json.bool? false
  pure { created, ready }

def VirtualMachineStatus.toJson (s : VirtualMachineStatus) : Json :=
  .ofFields [("created", some (.bool s.created)), ("ready", some (.bool s.ready))]

def VirtualMachineSpec.ofJson? (v : Json) : Option VirtualMachineSpec := do
  let fields ← v.record? ["runStrategy", "dataVolumeTemplates", "template"] 0
  let runStrategy ← Json.optional fields "runStrategy" Json.str?
  let dataVolumeTemplates ←
    Json.orElse fields "dataVolumeTemplates" (Json.list? DataVolumeTemplate.ofJson?) []
  let template ← Json.optional fields "template" InstanceTemplate.ofJson?
  pure { runStrategy, dataVolumeTemplates, template }

def VirtualMachineSpec.toJson (s : VirtualMachineSpec) : Json :=
  .ofFields
    [("dataVolumeTemplates", Json.ofNonempty DataVolumeTemplate.toJson s.dataVolumeTemplates),
     ("runStrategy", s.runStrategy.map .str),
     ("template", s.template.map InstanceTemplate.toJson)]

def VirtualMachine.ofJson? (v : Json) : Option VirtualMachine := do
  let fields ← v.record? ["metadata", "spec", "status"] 3
  let metadata ← Json.required fields "metadata" ObjectMeta.ofJson?
  let spec ← Json.required fields "spec" VirtualMachineSpec.ofJson?
  let status ← Json.optional fields "status" VirtualMachineStatus.ofJson?
  pure { metadata, spec, status }

def VirtualMachine.toJson (vm : VirtualMachine) : Json :=
  .ofFields
    [("apiVersion", some (.str "kubevirt.io/v1alpha3")),
     ("kind", some (.str "VirtualMachine")),
     ("metadata", some vm.metadata.toJson),
     ("spec", some vm.spec.toJson),
     ("status", vm.status.map VirtualMachineStatus.toJson)]

/-- The status, or that of a machine that has not been created. -/
def VirtualMachine.observedStatus (vm : VirtualMachine) : VirtualMachineStatus :=
  vm.status.getD {}

/-! ### Life-cycle state -/

/-- What the status says about the life of a virtual machine. -/
inductive VmState where
  | notCreated
  | createdNotReady
  | createdAndReady
deriving DecidableEq

/-- The state that a status stands for: readiness counts only once the machine is created. -/
def VmState.ofStatus (status : VirtualMachineStatus) : VmState :=
  match status.created, status.ready with
  | false, _ => .notCreated
  | true, false => .createdNotReady
  | true, true => .createdAndReady

/-- The state as it is written to the machine. -/
def VmState.text : VmState → String
  | .notCreated => "vmNotCreated"
  | .createdNotReady => "vmCreatedNotReady"
  | .createdAndReady => "vmCreatedAndReady"

end MachineActuator
