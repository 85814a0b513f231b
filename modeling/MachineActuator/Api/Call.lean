import MachineActuator.Api.Message
import MachineActuator.Program

/-! # Calls over the API

Every call of a cluster is one request, and its answer is read from the response.  A look-up that
is refused with the reason `NotFound` says that the object is absent; any other refusal is passed
on as it is. -/

namespace MachineActuator

open Api

/-- A request as it is sent by a call, or the error that it cannot be sent. -/
def orNotSent (request : Except RequestError Request) : Except ClientError Request :=
  request.mapError fun e => .kubernetes (.notSent e)

/-! ### The infrastructure cluster -/

namespace InfraCall

/-- The request of a call; replacing needs a name. -/
def request : InfraCall → Except ClientError Request
  | createVirtualMachine ns vm =>
    orNotSent (Request.create (infraPath ns "virtualmachines") vm.toJson)
  | getVirtualMachine ns name => orNotSent (Request.get (infraPath ns "virtualmachines") name)
  | updateVirtualMachine ns vm =>
    match vm.metadata.name with
    | none => .error (.invalidConfig "VirtualMachine to update has no name")
    | some name => orNotSent (Request.replace (infraPath ns "virtualmachines") name vm.toJson)
  | deleteVirtualMachine ns name grace =>
    orNotSent (Request.delete (infraPath ns "virtualmachines") name (some grace))
  | getInstance ns name => orNotSent (Request.get (infraPath ns "virtualmachineinstances") name)
  | createSecret ns secret => orNotSent (Request.create (corePath ns "secrets") secret.toJson)

/-- The answer of a call that got a response. -/
def ofResponse (r : Response) : (call : InfraCall) → Except ClientError call.Result
  | createVirtualMachine .. => (r.read VirtualMachine.ofJson?).mapError .kubernetes
  | getVirtualMachine ns name =>
    match r.lookUp VirtualMachine.ofJson? with
    | .ok found => orNotFound "VirtualMachine" ns name found
    | .error e => .error (.kubernetes e)
  | updateVirtualMachine .. => (r.read VirtualMachine.ofJson?).mapError .kubernetes
  | deleteVirtualMachine .. => (r.read (deleted? VirtualMachine.ofJson?)).mapError .kubernetes
  | getInstance ns name =>
    match r.lookUp VirtualMachineInstance.ofJson? with
    | .ok found => orNotFound "VirtualMachineInstance" ns name found
    | .error e => .error (.kubernetes e)
  | createSecret .. => (r.read Secret.ofJson?).mapError .kubernetes

/-- The line that is logged before the request is sent. -/
def announcement? : InfraCall → Option LogLine
  | createVirtualMachine ns vm =>
    some ⟨.debug, "Creating VirtualMachine " ++ Quoted.optional vm.metadata.name ++ " in " ++ ns⟩
  | _ => none

end InfraCall

/-! ### The tenant cluster -/

namespace TenantCall

def request : TenantCall → Except ClientError Request
  | patchMachine ns name patch => orNotSent (Request.merge (machinesPath ns) name patch)
  | patchMachineStatus ns name patch =>
    orNotSent (Request.mergeStatus (machinesPath ns) name patch)
  | getSecret ns name => orNotSent (Request.get (corePath ns "secrets") name)
  | getConfigMapValue ns name _ => orNotSent (Request.get (corePath ns "configmaps") name)
  | deleteNode name => orNotSent (Request.delete nodesPath name none)
  | patchNodeProviderId name providerId =>
    orNotSent (Request.merge nodesPath name
      (.field "spec" (.field "providerID" (.str providerId))))

/-- The answer of a call that got a response. -/
def ofResponse (r : Response) : (call : TenantCall) → Except ClientError call.Result
  | patchMachine .. => (r.read Machine.ofJson?).mapError .kubernetes
  | patchMachineStatus .. => (r.read Machine.ofJson?).mapError .kubernetes
  | getSecret ns name =>
    match r.lookUp Secret.ofJson? with
    | .ok found => orNotFound "Secret" ns name found
    | .error e => .error (.kubernetes e)
  | getConfigMapValue ns name key =>
    match r.lookUp ConfigMap.ofJson? with
    | .ok (some configMap) => orMissingKey ns name key (configMap.get? key)
    | .ok none => .error (.notFound (objectPath "ConfigMap" ns name))
    | .error e => .error (.kubernetes e)
  | deleteNode .. => (r.read (deleted? Node.ofJson?)).mapError .kubernetes
  | patchNodeProviderId .. =>
    match r.read Node.ofJson? with
    | .ok _ => .ok ()
    | .error e => .error (.kubernetes e)

end TenantCall

/-! ### Finalizers -/

namespace FinalizerChange

/-- One step of a JSON patch. -/
def step (op path : String) (value : Option Json) : Json :=
  .ofFields [("op", some (.str op)), ("path", some (.str path)), ("value", value)]

/-- The change as a JSON patch, which first tests that nothing else changed meanwhile. -/
def toJson : FinalizerChange → Json
  | addFirst finalizer =>
    .arr
      [step "test" "/metadata/finalizers" (some .null),
       step "add" "/metadata/finalizers" (some (.arr [.str finalizer]))]
  | addTo current finalizer =>
    .arr
      [step "test" "/metadata/finalizers" (some (.ofList .str current)),
       step "add" "/metadata/finalizers/-" (some (.str finalizer))]
  | removeAt index finalizer =>
    let path := "/metadata/finalizers/" ++ Nat.repr index
    .arr [step "test" path (some (.str finalizer)), step "remove" path none]

/-- The request that changes the finalizers of a machine. -/
def request (ns name : String) (change : FinalizerChange) : Except RequestError Request :=
  Request.change (machinesPath ns) name change.toJson

/-- The answer of a change that got a response. -/
def ofResponse (r : Response) : Except ApiError Unit :=
  match r.read Machine.ofJson? with
  | .ok _ => .ok ()
  | .error e => .error e

end FinalizerChange

end MachineActuator
