import MachineActuator.Resource.VirtualMachine

/-! # Provider documents

The two documents inside a machine: the provider specification, which says what virtual machine is
wanted, and the provider status, which repeats the status of the one there is. -/

namespace MachineActuator

/-- What virtual machine is wanted; an empty text, or no processors, leaves the choice open. -/
structure ProviderSpec where
  sourcePvcName : String := ""
  ignitionSecretName : String := ""
  credentialsSecretName : String := ""
  networkName : String := ""
  requestedMemory : String := ""
  requestedCpu : Nat := 0
  requestedStorage : String := ""
  storageClassName : String := ""
  persistentVolumeAccessMode : String := ""
deriving DecidableEq

/-- The status of the virtual machine behind a machine. -/
structure ProviderStatus where
  virtualMachineStatus : VirtualMachineStatus := {}
deriving DecidableEq

def ProviderSpec.ofJson? (v : Json) : Option ProviderSpec := do
  let fields ← v.record? ["sourcePvcName", "ignitionSecretName", "credentialsSecretName",
    "networkName", "requestedMemory", "requestedCPU", "requestedStorage", "storageClassName",
    "persistentVolumeAccessMode"] 0
  let sourcePvcName ← Json.orElse fields "sourcePvcName" Json.str? ""
  let ignitionSecretName ← Json.orElse fields "ignitionSecretName" Json.str? ""
  let credentialsSecretName ← Json.orElse fields "credentialsSecretName" Json.str? ""
  let networkName ← Json.orElse fields "networkName" Json.str? ""
  let requestedMemory ← Json.orElse fields "requestedMemory" Json.str? ""
  let requestedCpu ← Json.orElse fields "requestedCPU" (Json.nat? 32) 0
  let requestedStorage ← Json.orElse fields "requestedStorage" Json.str? ""
  let storageClassName ← Json.orElse fields "storageClassName" Json.str? ""
  let persistentVolumeAccessMode ← Json.orElse fields "persistentVolumeAccessMode" Json.str? ""
  pure
    { sourcePvcName, ignitionSecretName, credentialsSecretName, networkName, requestedMemory,
      requestedCpu, requestedStorage, storageClassName, persistentVolumeAccessMode }

def ProviderSpec.toJson (s : ProviderSpec) : Json :=
  .ofFields
    [("credentialsSecretName", Json.ofText s.credentialsSecretName),
     ("ignitionSecretName", some (.str s.ignitionSecretName)),
     ("networkName", some (.str s.networkName)),
     ("persistentVolumeAccessMode", Json.ofText s.persistentVolumeAccessMode),
     ("requestedCPU", some (.num (.int s.requestedCpu))),
     ("requestedMemory", Json.ofText s.requestedMemory),
     ("requestedStorage", Json.ofText s.requestedStorage),
     ("sourcePvcName", some (.str s.sourcePvcName)),
     ("storageClassName", Json.ofText s.storageClassName)]

/-- Reads the document of a machine; a machine without one asks for nothing in particular. -/
def ProviderSpec.ofDocument? : Option Json → Option ProviderSpec
  | some v => ofJson? v
  | none => some {}

def ProviderStatus.ofJson? (v : Json) : Option ProviderStatus := do
  let fields ← v.record? ["virtualMachineStatus"] 0
  let virtualMachineStatus ←
    Json.orElse fields "virtualMachineStatus" VirtualMachineStatus.ofJson? {}
  pure { virtualMachineStatus }

def ProviderStatus.toJson (s : ProviderStatus) : Json :=
  .field "virtualMachineStatus" s.virtualMachineStatus.toJson

end MachineActuator
