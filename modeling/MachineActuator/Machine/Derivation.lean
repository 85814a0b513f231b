import MachineActuator.Machine.Scope

/-! # Derived objects

The virtual machine and the secret that a machine asks for.  Both are functions of the scope: the
same machine under the same settings gives the same objects. -/

namespace MachineActuator

/-- Access modes that a boot volume may have. -/
def accessModes : List String := ["ReadWriteMany", "ReadOnlyMany", "ReadWriteOnce"]

/-- The text, or another one when it is empty. -/
def orWhenEmpty (text absent : String) : String := if text.isEmpty then absent else text

namespace Scope

/-- The first field that has to be set and is not. -/
def missingField? (spec : ProviderSpec) : Option String :=
  if spec.sourcePvcName.isEmpty then some "SourcePvcName"
  else if spec.ignitionSecretName.isEmpty then some "IgnitionSecretName"
  else if spec.networkName.isEmpty then some "NetworkName"
  else none

def accessMode (s : Scope) : Except ControllerError String :=
  let requested := s.providerSpec.persistentVolumeAccessMode
  if requested.isEmpty then .ok s.settings.defaults.persistentVolumeAccessMode
  else if requested ∈ accessModes then .ok requested
  else
    .error (.invalidConfig (s.name ++
      ": Value of PersistentVolumeAccessMode, can be only one of: " ++
      String.intercalate ", " accessModes))

/-- The size of the boot volume. -/
def storageRequest (s : Scope) : String :=
  orWhenEmpty s.providerSpec.requestedStorage s.settings.defaults.requestedStorage

/-- The volume that the virtual machine boots from. -/
def bootVolumeTemplate (s : Scope) (mode : String) : DataVolumeTemplate where
  apiVersion := some s.settings.defaults.dataVolumeApiVersion
  metadata := { name := some (bootVolumeName s.name), ns := some s.infraNs }
  spec :=
    { source := { pvc := some { name := s.providerSpec.sourcePvcName, ns := s.infraNs } }
      pvc := some
        { accessModes := some [mode]
          resources := some { requests := some (.singleton "storage" s.storageRequest) }
          storageClassName := some s.providerSpec.storageClassName |>.filter (!·.isEmpty) } }

/-- What the guest asks for: memory, and processors if a number is given. -/
def guestRequests (s : Scope) : StringMap String :=
  let memory := StringMap.singleton "memory"
    (orWhenEmpty s.providerSpec.requestedMemory s.settings.defaults.requestedMemory)
  if s.providerSpec.requestedCpu = 0 then memory
  else memory.insert "cpu" (Nat.repr s.providerSpec.requestedCpu)

/-- The guest: two disks with their volumes, and one interface with its network. -/
def instanceTemplate (s : Scope) : InstanceTemplate :=
  let defaults := s.settings.defaults
  { metadata := some
      { labels := some ((StringMap.singleton "kubevirt.io/vm" s.name).insert "name" s.name) }
    spec :=
      { domain :=
          { resources := { requests := s.guestRequests }
            devices :=
              { disks :=
                  [{ name := defaults.dataVolumeDiskName, disk := some ⟨defaults.diskBus⟩ },
                   { name := defaults.cloudInitDiskName, disk := some ⟨defaults.diskBus⟩ }]
                interfaces := [{ name := defaults.mainNetworkName, bridged := true }] } }
        terminationGracePeriodSeconds := some defaults.terminationGracePeriodSeconds
        volumes :=
          [{ name := defaults.dataVolumeDiskName, dataVolume := some ⟨bootVolumeName s.name⟩ },
           { name := defaults.cloudInitDiskName
             cloudInit := some { userDataSecretRef := some ⟨ignitionSecretName s.name⟩ } }]
        networks :=
          [{ name := defaults.mainNetworkName, multus := some ⟨s.providerSpec.networkName⟩ }] } }

/-- The labels of the virtual machine: those of the machine over the mark of ownership. -/
def vmLabels (s : Scope) : StringMap String :=
  (ownershipLabels s.settings.infra.infraId).override (s.machine.metadata.labels.getD .empty)

/-- The virtual machine whose boot volume has this access mode. -/
def virtualMachineWith (s : Scope) (mode : String) : VirtualMachine where
  metadata :=
    { name := some s.name
      ns := some s.infraNs
      labels := some s.vmLabels
      annotations := s.machine.metadata.annotations }
  spec :=
    { runStrategy := some "Always"
      dataVolumeTemplates := [s.bootVolumeTemplate mode]
      template := some s.instanceTemplate }

/-- The virtual machine that the machine asks for. -/
def virtualMachine (s : Scope) : Except ControllerError VirtualMachine :=
  match missingField? s.providerSpec with
  | some field => .error (.invalidConfig (s.name ++ ": missing value for " ++ field))
  | none =>
    match s.accessMode with
    | .error e => .error e
    | .ok mode => .ok (s.virtualMachineWith mode)

/-- The secret with the payload of the virtual machine. -/
def ignitionSecret (s : Scope) (payload : ByteArray) : Secret where
  metadata :=
    { name := some (MachineActuator.ignitionSecretName s.name)
      ns := some s.infraNs
      labels := some (ownershipLabels s.settings.infra.infraId) }
  data := some (.singleton "userdata" payload)

end Scope

end MachineActuator
