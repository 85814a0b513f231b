import MachineActuator.Machine.Scope

/-! # Taking over what was observed

Once the virtual machine and its instance are known, the machine of the scope takes over the
provider id, two annotations and a label, the addresses, and the provider status.  Everything else
of the machine stays. -/

namespace MachineActuator

/-- Changes the labels or annotations of an object, which may be absent. -/
def withEntry (m : Option (StringMap String)) (key value : String) : Option (StringMap String) :=
  some ((m.getD .empty).insert key value)

/-- The addresses of a host: its name, and every IPv4 address once. -/
def addressesOf (host : String) (ips : List Ipv4) : List NodeAddress :=
  { type := "InternalDNS", address := host } ::
    (ips.map fun ip => { type := "InternalIP", address := ip.render : NodeAddress }).eraseDups

namespace Scope

/-- The kind of machine behind a virtual machine, if it has a template. -/
def instanceType? (vm : VirtualMachine) : Option String :=
  vm.spec.template.map fun t => ((t.spec.domain.machine).map (·.type)).getD ""

/-- The labels of the machine with the kind of machine behind it. -/
def syncedLabels (labels : Option (StringMap String)) (vm : VirtualMachine) :
    Option (StringMap String) :=
  match instanceType? vm with
  | some type => withEntry labels instanceTypeLabel type
  | none => some (labels.getD .empty)

/-- The annotations of the machine with uid and state of the virtual machine. -/
def syncedAnnotations (annotations : Option (StringMap String)) (vm : VirtualMachine) :
    Option (StringMap String) :=
  withEntry (withEntry annotations vmIdAnnotation (vm.metadata.uid.getD ""))
    instanceStateAnnotation (VmState.ofStatus vm.observedStatus).text

/-- The status of the machine with its addresses and the status of the virtual machine. -/
def syncedStatus (status : Option MachineStatus) (vm : VirtualMachine)
    (addresses : List NodeAddress) : MachineStatus :=
  { status.getD {} with
    addresses
    providerStatus := some (ProviderStatus.toJson ⟨vm.observedStatus⟩) }

/-- The machine with everything taken over. -/
def syncedMachine (m : Machine) (vm : VirtualMachine) (vmi : VirtualMachineInstance)
    (providerId : String) (ips : List Ipv4) : Machine :=
  { metadata :=
      { m.metadata with
        labels := syncedLabels m.metadata.labels vm
        annotations := syncedAnnotations m.metadata.annotations vm }
    spec := { m.spec with providerId := some providerId }
    status := some (syncedStatus m.status vm (addressesOf (vmi.metadata.name.getD "") ips)) }

/-- The scope with everything taken over. -/
def synced (s : Scope) (vm : VirtualMachine) (vmi : VirtualMachineInstance)
    (providerId : String) (ips : List Ipv4) : Scope :=
  { s with machine := syncedMachine s.machine vm vmi providerId ips }

/-- The line that tells whether the provider id is new. -/
def logProviderId (s : Scope) (providerId : String) : Program Unit :=
  if s.machine.spec.providerId = some providerId then
    Program.log .debug (s.name ++ ": providerID already synced to " ++ providerId)
  else Program.log .info (s.name ++ ": synced providerID to " ++ providerId)

/-- Looks up the addresses of the instance and takes everything over. -/
def sync (s : Scope) (vm : VirtualMachine) (vmi : VirtualMachineInstance) (providerId : String) :
    Program (Except ControllerError Scope) := do
  s.logProviderId providerId
  Program.log .debug (s.name ++ ": synced annotations and labels, state " ++
    (VmState.ofStatus vm.observedStatus).text)
  let host := vmi.metadata.name.getD ""
  let ips ← Program.resolve host
  Program.log .debug (s.name ++ ": synced " ++ Nat.repr (addressesOf host ips).length ++
    " network addresses")
  pure (.ok (s.synced vm vmi providerId ips))

end Scope

end MachineActuator
