import MachineActuator.Resource.NodeAddress
import MachineActuator.Resource.VolumeClaim

/-! # What is known of a node

The agent of a node reports its addresses and capacity, the conditions it is in, the settings it
runs with, the images and volumes it holds, and what kind of system it is. -/

namespace MachineActuator

/-- A config map that a node takes settings from. -/
structure NodeConfigMap where
  kubeletConfigKey : String
  name : String
  ns : String
  resourceVersion : Option String := none
  uid : Option String := none
deriving DecidableEq

/-- Where a node takes its settings from. -/
structure NodeConfigSource where
  configMap : Option NodeConfigMap := none
deriving DecidableEq

/-- The settings a node runs with, and those it is to run with. -/
structure NodeConfigStatus where
  active : Option NodeConfigSource := none
  assigned : Option NodeConfigSource := none
  error : Option String := none
  lastKnownGood : Option NodeConfigSource := none
deriving DecidableEq

/-- A condition that a node is in or not. -/
structure NodeCondition where
  lastHeartbeatTime : Option Instant := none
  lastTransitionTime : Option Instant := none
  message : Option String := none
  reason : Option String := none
  status : String
  type : String
deriving DecidableEq

/-- The port that an agent listens on. -/
structure DaemonEndpoint where
  port : Int
deriving DecidableEq

/-- The ports of a node. -/
structure NodeDaemonEndpoints where
  kubeletEndpoint : Option DaemonEndpoint := none
deriving DecidableEq

/-- An image that a node holds. -/
structure ContainerImage where
  names : Option (List String) := none
  sizeBytes : Option Int := none
deriving DecidableEq

/-- The system that a node runs. -/
structure NodeSystemInfo where
  architecture : String
  bootId : String
  containerRuntimeVersion : String
  kernelVersion : String
  kubeProxyVersion : String
  kubeletVersion : String
  machineId : String
  operatingSystem : String
  osImage : String
  systemUuid : String
deriving DecidableEq

/-- What a runtime can do. -/
structure RuntimeFeatures where
  recursiveReadOnlyMounts : Option Bool := none
deriving DecidableEq

/-- A runtime for containers. -/
structure RuntimeHandler where
  features : Option RuntimeFeatures := none
  name : Option String := none
deriving DecidableEq

/-- A volume attached to a node. -/
structure AttachedVolume where
  devicePath : String
  name : String
deriving DecidableEq

/-- What is known of a node. -/
structure NodeStatus where
  addresses : Option (List NodeAddress) := none
  allocatable : Option (StringMap String) := none
  capacity : Option (StringMap String) := none
  conditions : Option (List NodeCondition) := none
  config : Option NodeConfigStatus := none
  daemonEndpoints : Option NodeDaemonEndpoints := none
  images : Option (List ContainerImage) := none
  nodeInfo : Option NodeSystemInfo := none
  phase : Option String := none
  runtimeHandlers : Option (List RuntimeHandler) := none
  volumesAttached : Option (List AttachedVolume) := none
  volumesInUse : Option (List String) := none
deriving DecidableEq

/-! ### Reading and writing -/

def NodeConfigMap.ofJson? (v : Json) : Option NodeConfigMap := do
  let fields ← v.object?
  let kubeletConfigKey ← Json.textOrEmpty fields "kubeletConfigKey"
  let name ← Json.textOrEmpty fields "name"
  let ns ← Json.textOrEmpty fields "namespace"
  let resourceVersion ← Json.optional fields "resourceVersion" Json.str?
  let uid ← Json.optional fields "uid" Json.str?
  pure { kubeletConfigKey, name, ns, resourceVersion, uid }

def NodeConfigMap.toJson (m : NodeConfigMap) : Json :=
  .ofFields
    [("kubeletConfigKey", some (.str m.kubeletConfigKey)),
     ("name", some (.str m.name)),
     ("namespace", some (.str m.ns)),
     ("resourceVersion", m.resourceVersion.map .str),
     ("uid", m.uid.map .str)]

def NodeConfigSource.ofJson? (v : Json) : Option NodeConfigSource := do
  let fields ← v.object?
  let configMap ← Json.optional fields "configMap" NodeConfigMap.ofJson?
  pure { configMap }

def NodeConfigSource.toJson (s : NodeConfigSource) : Json :=
  .ofFields [("configMap", s.configMap.map NodeConfigMap.toJson)]

def NodeConfigStatus.ofJson? (v : Json) : Option NodeConfigStatus := do
  let fields ← v.object?
  let active ← Json.optional fields "active" NodeConfigSource.ofJson?
  let assigned ← Json.optional fields "assigned" NodeConfigSource.ofJson?
  let error ← Json.optional fields "error" Json.str?
  let lastKnownGood ← Json.optional fields "lastKnownGood" NodeConfigSource.ofJson?
  pure { active, assigned, error, lastKnownGood }

def NodeConfigStatus.toJson (s : NodeConfigStatus) : Json :=
  .ofFields
    [("active", s.active.map NodeConfigSource.toJson),
     ("assigned", s.assigned.map NodeConfigSource.toJson),
     ("error", s.error.map .str),
     ("lastKnownGood", s.lastKnownGood.map NodeConfigSource.toJson)]

def NodeCondition.ofJson? (v : Json) : Option NodeCondition := do
  let fields ← v.object?
  let lastHeartbeatTime ← Json.optional fields "lastHeartbeatTime" Json.time?
  let lastTransitionTime ← Json.optional fields "lastTransitionTime" Json.time?
  let message ← Json.optional fields "message" Json.str?
  let reason ← Json.optional fields "reason" Json.str?
  let status ← Json.textOrEmpty fields "status"
  let type ← Json.textOrEmpty fields "type"
  pure { lastHeartbeatTime, lastTransitionTime, message, reason, status, type }

def NodeCondition.toJson (c : NodeCondition) : Json :=
  .ofFields
    [("lastHeartbeatTime", c.lastHeartbeatTime.map .ofWholeTime),
     ("lastTransitionTime", c.lastTransitionTime.map .ofWholeTime),
     ("message", c.message.map .str),
     ("reason", c.reason.map .str),
     ("status", some (.str c.status)),
     ("type", some (.str c.type))]

/-- Reads a port; none stands for zero. -/
def DaemonEndpoint.ofJson? (v : Json) : Option DaemonEndpoint := do
  let fields ← v.object?
  let port ← Json.optional fields "Port" Json.int32?
  pure { port := port.getD 0 }

def DaemonEndpoint.toJson (e : DaemonEndpoint) : Json := .field "Port" (.ofInt e.port)

def NodeDaemonEndpoints.ofJson? (v : Json) : Option NodeDaemonEndpoints := do
  let fields ← v.object?
  let kubeletEndpoint ← Json.optional fields "kubeletEndpoint" DaemonEndpoint.ofJson?
  pure { kubeletEndpoint }

def NodeDaemonEndpoints.toJson (e : NodeDaemonEndpoints) : Json :=
  .ofFields [("kubeletEndpoint", e.kubeletEndpoint.map DaemonEndpoint.toJson)]

def ContainerImage.ofJson? (v : Json) : Option ContainerImage := do
  let fields ← v.object?
  let names ← Json.optional fields "names" (Json.list? Json.str?)
  let sizeBytes ← Json.optional fields "sizeBytes" Json.int64?
  pure { names, sizeBytes }

def ContainerImage.toJson (i : ContainerImage) : Json :=
  .ofFields [("names", i.names.map (.ofList .str)), ("sizeBytes", i.sizeBytes.map .ofInt)]

def NodeSystemInfo.ofJson? (v : Json) : Option NodeSystemInfo := do
  let fields ← v.object?
  let architecture ← Json.textOrEmpty fields "architecture"
  let bootId ← Json.textOrEmpty fields "bootID"
  let containerRuntimeVersion ← Json.textOrEmpty fields "containerRuntimeVersion"
  let kernelVersion ← Json.textOrEmpty fields "kernelVersion"
  let kubeProxyVersion ← Json.textOrEmpty fields "kubeProxyVersion"
  let kubeletVersion ← Json.textOrEmpty fields "kubeletVersion"
  let machineId ← Json.textOrEmpty fields "machineID"
  let operatingSystem ← Json.textOrEmpty fields "operatingSystem"
  let osImage ← Json.textOrEmpty fields "osImage"
  let systemUuid ← Json.textOrEmpty fields "systemUUID"
  pure
    { architecture, bootId, containerRuntimeVersion, kernelVersion, kubeProxyVersion,
      kubeletVersion, machineId, operatingSystem, osImage, systemUuid }

def NodeSystemInfo.toJson (i : NodeSystemInfo) : Json :=
  .ofFields
    [("architecture", some (.str i.architecture)),
     ("bootID", some (.str i.bootId)),
     ("containerRuntimeVersion", some (.str i.containerRuntimeVersion)),
     ("kernelVersion", some (.str i.kernelVersion)),
     ("kubeProxyVersion", some (.str i.kubeProxyVersion)),
     ("kubeletVersion", some (.str i.kubeletVersion)),
     ("machineID", some (.str i.machineId)),
     ("operatingSystem", some (.str i.operatingSystem)),
     ("osImage", some (.str i.osImage)),
     ("systemUUID", some (.str i.systemUuid))]

def RuntimeFeatures.ofJson? (v : Json) : Option RuntimeFeatures := do
  let fields ← v.object?
  let recursiveReadOnlyMounts ← Json.optional fields "recursiveReadOnlyMounts" Json.bool?
  pure { recursiveReadOnlyMounts }

def RuntimeFeatures.toJson (f : RuntimeFeatures) : Json :=
  .ofFields [("recursiveReadOnlyMounts", f.recursiveReadOnlyMounts.map .bool)]

def RuntimeHandler.ofJson? (v : Json) : Option RuntimeHandler := do
  let fields ← v.object?
  let features ← Json.optional fields "features" RuntimeFeatures.ofJson?
  let name ← Json.optional fields "name" Json.str?
  pure { features, name }

def RuntimeHandler.toJson (h : RuntimeHandler) : Json :=
  .ofFields [("features", h.features.map RuntimeFeatures.toJson), ("name", h.name.map .str)]

def AttachedVolume.ofJson? (v : Json) : Option AttachedVolume := do
  let fields ← v.object?
  let devicePath ← Json.textOrEmpty fields "devicePath"
  let name ← Json.textOrEmpty fields "name"
  pure { devicePath, name }

def AttachedVolume.toJson (a : AttachedVolume) : Json :=
  .ofFields [("devicePath", some (.str a.devicePath)), ("name", some (.str a.name))]

def NodeStatus.ofJson? (v : Json) : Option NodeStatus := do
  let fields ← v.object?
  let addresses ← Json.optional fields "addresses" (Json.list? NodeAddress.ofJson?)
  let allocatable ← Json.optional fields "allocatable" (Json.map? Json.quantity?)
  let capacity ← Json.optional fields "capacity" (Json.map? Json.quantity?)
  let conditions ← Json.optional fields "conditions" (Json.list? NodeCondition.ofJson?)
  let config ← Json.optional fields "config" NodeConfigStatus.ofJson?
  let daemonEndpoints ← Json.optional fields "daemonEndpoints" NodeDaemonEndpoints.ofJson?
  let images ← Json.optional fields "images" (Json.list? ContainerImage.ofJson?)
  let nodeInfo ← Json.optional fields "nodeInfo" NodeSystemInfo.ofJson?
  let phase ← Json.optional fields "phase" Json.str?
  let runtimeHandlers ←
    Json.optional fields "runtimeHandlers" (Json.list? RuntimeHandler.ofJson?)
  let volumesAttached ←
    Json.optional fields "volumesAttached" (Json.list? AttachedVolume.ofJson?)
  let volumesInUse ← Json.optional fields "volumesInUse" (Json.list? Json.str?)
  pure
    { addresses, allocatable, capacity, conditions, config, daemonEndpoints, images, nodeInfo,
      phase, runtimeHandlers, volumesAttached, volumesInUse }

def NodeStatus.toJson (s : NodeStatus) : Json :=
  .ofFields
    [("addresses", s.addresses.map (.ofList NodeAddress.toJson)),
     ("allocatable", s.allocatable.map .ofStrings),
     ("capacity", s.capacity.map .ofStrings),
     ("conditions", s.conditions.map (.ofList NodeCondition.toJson)),
     ("config", s.config.map NodeConfigStatus.toJson),
     ("daemonEndpoints", s.daemonEndpoints.map NodeDaemonEndpoints.toJson),
     ("images", s.images.map (.ofList ContainerImage.toJson)),
     ("nodeInfo", s.nodeInfo.map NodeSystemInfo.toJson),
     ("phase", s.phase.map .str),
     ("runtimeHandlers", s.runtimeHandlers.map (.ofList RuntimeHandler.toJson)),
     ("volumesAttached", s.volumesAttached.map (.ofList AttachedVolume.toJson)),
     ("volumesInUse", s.volumesInUse.map (.ofList .str))]

end MachineActuator
