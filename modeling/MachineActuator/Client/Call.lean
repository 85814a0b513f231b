import MachineActuator.Client.Error
import MachineActuator.Resource.Machine
import MachineActuator.Resource.Node
import MachineActuator.Resource.VirtualMachine

/-! # Calls of the clusters

What can be asked of the infrastructure cluster, which runs the virtual machines, and of the tenant
cluster, which owns the machines and nodes.  A call is data, and its answer is a value of
`Result` or a `ClientError`; looking up an object that is absent is an error. -/

namespace MachineActuator

/-- A call of the infrastructure cluster. -/
inductive InfraCall where
  | createVirtualMachine (ns : String) (vm : VirtualMachine)
  | getVirtualMachine (ns name : String)
  | updateVirtualMachine (ns : String) (vm : VirtualMachine)
  | deleteVirtualMachine (ns name : String) (graceSeconds : Nat)
  | getInstance (ns name : String)
  | createSecret (ns : String) (secret : Secret)

/-- What a call of the infrastructure cluster answers when it succeeds. -/
abbrev InfraCall.Result : InfraCall → Type
  | createVirtualMachine .. => VirtualMachine
  | getVirtualMachine .. => VirtualMachine
  | updateVirtualMachine .. => VirtualMachine
  | deleteVirtualMachine .. => Unit
  | getInstance .. => VirtualMachineInstance
  | createSecret .. => Secret

inductive TenantCall where
  | patchMachine (ns name : String) (patch : Json)
  | patchMachineStatus (ns name : String) (patch : Json)
  | getSecret (ns name : String)
  | getConfigMapValue (ns name key : String)
  | deleteNode (name : String)
  | patchNodeProviderId (name providerId : String)

/-- What a call of the tenant cluster answers when it succeeds. -/
abbrev TenantCall.Result : TenantCall → Type
  | patchMachine .. => Machine
  | patchMachineStatus .. => Machine
  | getSecret .. => Secret
  | getConfigMapValue .. => String
  | deleteNode .. => Unit
  | patchNodeProviderId .. => Unit

/-- An object in words, as errors name it. -/
def objectPath (kind ns name : String) : String := kind ++ " " ++ ns ++ "/" ++ name

/-- An object that was looked up, or the error that it does not exist. -/
def orNotFound {α : Type} (kind ns name : String) : Option α → Except ClientError α
  | some value => .ok value
  | none => .error (.notFound (objectPath kind ns name))

/-- The text that was looked up in a config map, or the error that the key is missing. -/
def orMissingKey (ns name key : String) : Option String → Except ClientError String
  | some value => .ok value
  | none =>
    .error (.invalidConfig (objectPath "ConfigMap" ns name ++ " does not contain key " ++ key))

end MachineActuator
