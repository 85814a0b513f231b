import MachineActuator.Resource.DataVolume

/-! # Instances of virtual machines

The guest as the infrastructure cluster runs it: memory and processors, disks and interfaces, and
the volumes and networks these are connected to by name.  The same description is the template
inside a virtual machine and the content of the instance object made from it. -/

namespace MachineActuator

/-- Amounts a guest asks for. -/
structure GuestResources where
  requests : StringMap String := .empty
deriving DecidableEq

/-- The bus a disk is attached to. -/
structure DiskTarget where
  bus : String
deriving DecidableEq

structure Disk where
  name : String
  disk : Option DiskTarget := none
deriving DecidableEq

/-- An interface of the guest, bridged or without a binding. -/
structure Interface where
  name : String
  bridged : Bool := false
deriving DecidableEq

/-- Disks and interfaces of the guest. -/
structure Devices where
  disks : List Disk := []
  interfaces : List Interface := []
deriving DecidableEq

/-- The kind of machine that is emulated. -/
structure MachineType where
  type : String := ""
deriving DecidableEq

/-- The hardware of the guest. -/
structure DomainSpec where
  resources : GuestResources := {}
  devices : Devices := {}
  machine : Option MachineType := none
deriving DecidableEq

/-- A volume that is the data volume of some name. -/
structure DataVolumeRef where
  name : String
deriving DecidableEq

/-- A reference to a secret by name. -/
structure SecretRef where
  name : String
deriving DecidableEq

/-- A volume that hands the guest the payload it starts with. -/
structure CloudInitSource where
  userDataSecretRef : Option SecretRef := none
deriving DecidableEq

/-- A volume behind the disk of the same name. -/
structure Volume where
  name : String
  dataVolume : Option DataVolumeRef := none
  cloudInit : Option CloudInitSource := none
deriving DecidableEq

/-- A network attached through a definition of this name. -/
structure MultusNetwork where
  networkName : String
deriving DecidableEq

/-- A network behind the interface of the same name. -/
structure Network where
  name : String
  multus : Option MultusNetwork := none
deriving DecidableEq

/-- Description of a guest. -/
structure InstanceSpec where
  domain : DomainSpec := {}
  terminationGracePeriodSeconds : Option Int := none
  volumes : List Volume := []
  networks : List Network := []
deriving DecidableEq

structure InstanceTemplate where
  metadata : Option ObjectMeta := none
  spec : InstanceSpec := {}
deriving DecidableEq

/-- Equality with metadata compared by `ObjectMeta.same`. -/
def InstanceTemplate.same (a b : InstanceTemplate) : Bool :=
  decide (a.spec = b.spec) && Json.sameOption ObjectMeta.same a.metadata b.metadata

/-- An instance that runs in the infrastructure cluster. -/
structure VirtualMachineInstance where
  metadata : ObjectMeta := {}
  spec : InstanceSpec := {}
deriving DecidableEq

/-! ### Reading and writing -/

def GuestResources.ofJson? (v : Json) : Option GuestResources := do
  let fields ← v.record? ["requests"] 0
  let requests ← Json.orElse fields "requests" (Json.map? Json.quantity?) .empty
  pure { requests }

def GuestResources.toJson (r : GuestResources) : Json :=
  .ofFields [("requests", if r.requests.isEmpty then none else some (.ofStrings r.requests))]

def DiskTarget.ofJson? (v : Json) : Option DiskTarget := do
  let fields ← v.record? ["bus"] 1
  let bus ← Json.required fields "bus" Json.str?
  pure { bus }

def DiskTarget.toJson (t : DiskTarget) : Json := .field "bus" (.str t.bus)

def Disk.ofJson? (v : Json) : Option Disk := do
  let fields ← v.record? ["name", "disk"] 1
  let name ← Json.required fields "name" Json.str?
  let disk ← Json.optional fields "disk" DiskTarget.ofJson?
  pure { name, disk }

def Disk.toJson (d : Disk) : Json :=
  .ofFields [("disk", d.disk.map DiskTarget.toJson), ("name", some (.str d.name))]

/-- Reads an interface; the binding has no settings. -/
def Interface.ofJson? (v : Json) : Option Interface := do
  let fields ← v.record? ["name", "bridge"] 1
  let name ← Json.required fields "name" Json.str?
  let bridge ← Json.optional fields "bridge" (Json.record? [] 0)
  pure { name, bridged := bridge.isSome }

def Interface.toJson (i : Interface) : Json :=
  .ofFields [("bridge", if i.bridged then some (.obj []) else none), ("name", some (.str i.name))]

def Devices.ofJson? (v : Json) : Option Devices := do
  let fields ← v.record? ["disks", "interfaces"] 0
  let disks ← Json.orElse fields "disks" (Json.list? Disk.ofJson?) []
  let interfaces ← Json.orElse fields "interfaces" (Json.list? Interface.ofJson?) []
  pure { disks, interfaces }

def Devices.toJson (d : Devices) : Json :=
  .ofFields
    [("disks", Json.ofNonempty Disk.toJson d.disks),
     ("interfaces", Json.ofNonempty Interface.toJson d.interfaces)]

def MachineType.ofJson? (v : Json) : Option MachineType := do
  let fields ← v.record? ["type"] 0
  let type ← Json.orElse fields "type" Json.str? ""
  pure { type }

def MachineType.toJson (m : MachineType) : Json := .field "type" (.str m.type)

def DomainSpec.ofJson? (v : Json) : Option DomainSpec := do
  let fields ← v.record? ["resources", "devices", "machine"] 0
  let resources ← Json.orElse fields "resources" GuestResources.ofJson? {}
  let devices ← Json.orElse fields "devices" Devices.ofJson? {}
  let machine ← Json.optional fields "machine" MachineType.ofJson?
  pure { resources, devices, machine }

def DomainSpec.toJson (d : DomainSpec) : Json :=
  .ofFields
    [("devices", some d.devices.toJson),
     ("machine", d.machine.map MachineType.toJson),
     ("resources", some d.resources.toJson)]

def DataVolumeRef.ofJson? (v : Json) : Option DataVolumeRef := do
  let fields ← v.record? ["name"] 1
  let name ← Json.required fields "name" Json.str?
  pure { name }

def DataVolumeRef.toJson (r : DataVolumeRef) : Json := .field "name" (.str r.name)

def SecretRef.ofJson? (v : Json) : Option SecretRef := do
  let fields ← v.record? ["name"] 1
  let name ← Json.required fields "name" Json.str?
  pure { name }

def SecretRef.toJson (r : SecretRef) : Json := .field "name" (.str r.name)

def CloudInitSource.ofJson? (v : Json) : Option CloudInitSource := do
  let fields ← v.record? ["userDataSecretRef"] 0
  let userDataSecretRef ← Json.optional fields "userDataSecretRef" SecretRef.ofJson?
  pure { userDataSecretRef }

def CloudInitSource.toJson (s : CloudInitSource) : Json :=
  .ofFields [("userDataSecretRef", s.userDataSecretRef.map SecretRef.toJson)]

def Volume.ofJson? (v : Json) : Option Volume := do
  let fields ← v.record? ["name", "dataVolume", "cloudInitConfigDrive"] 1
  let name ← Json.required fields "name" Json.str?
  let dataVolume ← Json.optional fields "dataVolume" DataVolumeRef.ofJson?
  let cloudInit ← Json.optional fields "cloudInitConfigDrive" CloudInitSource.ofJson?
  pure { name, dataVolume, cloudInit }

def Volume.toJson (v : Volume) : Json :=
  .ofFields
    [("cloudInitConfigDrive", v.cloudInit.map CloudInitSource.toJson),
     ("dataVolume", v.dataVolume.map DataVolumeRef.toJson),
     ("name", some (.str v.name))]

def MultusNetwork.ofJson? (v : Json) : Option MultusNetwork := do
  let fields ← v.record? ["networkName"] 1
  let networkName ← Json.required fields "networkName" Json.str?
  pure { networkName }

def MultusNetwork.toJson (n : MultusNetwork) : Json := .field "networkName" (.str n.networkName)

def Network.ofJson? (v : Json) : Option Network := do
  let fields ← v.record? ["name", "multus"] 1
  let name ← Json.required fields "name" Json.str?
  let multus ← Json.optional fields "multus" MultusNetwork.ofJson?
  pure { name, multus }

def Network.toJson (n : Network) : Json :=
  .ofFields [("multus", n.multus.map MultusNetwork.toJson), ("name", some (.str n.name))]

def InstanceSpec.ofJson? (v : Json) : Option InstanceSpec := do
  let fields ← v.record? ["domain", "terminationGracePeriodSeconds", "volumes", "networks"] 0
  let domain ← Json.orElse fields "domain" DomainSpec.ofJson? {}
  let terminationGracePeriodSeconds ←
    Json.optional fields "terminationGracePeriodSeconds" Json.int64?
  let volumes ← Json.orElse fields "volumes" (Json.list? Volume.ofJson?) []
  let networks ← Json.orElse fields "networks" (Json.list? Network.ofJson?) []
  pure { domain, terminationGracePeriodSeconds, volumes, networks }

def InstanceSpec.toJson (s : InstanceSpec) : Json :=
  .ofFields
    [("domain", some s.domain.toJson),
     ("networks", Json.ofNonempty Network.toJson s.networks),
     ("terminationGracePeriodSeconds",
       s.terminationGracePeriodSeconds.map fun n => .num (.int n)),
     ("volumes", Json.ofNonempty Volume.toJson s.volumes)]

def InstanceTemplate.ofJson? (v : Json) : Option InstanceTemplate := do
  let fields ← v.record? ["metadata", "spec"] 0
  let metadata ← Json.optional fields "metadata" ObjectMeta.ofJson?
  let spec ← Json.orElse fields "spec" InstanceSpec.ofJson? {}
  pure { metadata, spec }

def InstanceTemplate.toJson (t : InstanceTemplate) : Json :=
  .ofFields [("metadata", t.metadata.map ObjectMeta.toJson), ("spec", some t.spec.toJson)]

def VirtualMachineInstance.ofJson? (v : Json) : Option VirtualMachineInstance := do
  let fields ← v.record? ["metadata", "spec"] 2
  let metadata ← Json.required fields "metadata" ObjectMeta.ofJson?
  let spec ← Json.required fields "spec" InstanceSpec.ofJson?
  pure { metadata, spec }

def VirtualMachineInstance.toJson (vmi : VirtualMachineInstance) : Json :=
  .ofFields
    [("apiVersion", some (.str "kubevirt.io/v1alpha3")),
     ("kind", some (.str "VirtualMachineInstance")),
     ("metadata", some vmi.metadata.toJson),
     ("spec", some vmi.spec.toJson)]

end MachineActuator
