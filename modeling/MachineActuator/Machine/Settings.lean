import MachineActuator.Json.Parse
import MachineActuator.Program

/-! # Settings

Where the tenant cluster lives inside the infrastructure cluster, the fixed values that virtual
machines are derived with, and the settings of the process, which come from its environment. -/

namespace MachineActuator

/-! ### The process -/

structure ProcessSettings where
  /-- The namespace whose machines are looked after; all of them if there is none. -/
  watchNamespace : Option String
  credentialsSecretName : String
  credentialsSecretNamespace : String
  configMapNamespace : String
  configMapName : String
deriving DecidableEq

/-- Takes the settings from variables; one that is empty counts as unset. -/
def ProcessSettings.ofVariables (lookUp : String → Option String) : ProcessSettings :=
  let get (key : String) : Option String := (lookUp key).filter (!·.isEmpty)
  { watchNamespace := get "WATCH_NAMESPACE"
    credentialsSecretName := (get "INFRA_CREDENTIALS_SECRET_NAME").getD "kubevirt-credentials"
    credentialsSecretNamespace :=
      (get "INFRA_CREDENTIALS_SECRET_NAMESPACE").getD "openshift-machine-api"
    configMapNamespace := (get "CONFIG_MAP_NAMESPACE").getD "openshift-config"
    configMapName := (get "CONFIG_MAP_NAME").getD "cloud-provider-config" }

/-! ### The infrastructure -/

/-- The place of the tenant cluster in the infrastructure cluster. -/
structure InfraSettings where
  ns : String
  infraId : String
deriving DecidableEq

namespace InfraSettings

/-- The key of the config map that holds the document. -/
def documentKey : String := "config"

/-- A field of the document that has to be a text. -/
def field (source : String) (doc : Json) (name : String) : Except ControllerError String :=
  match doc.get? name >>= Json.str? with
  | some text => .ok text
  | none =>
    .error (.invalidConfig ("configMap " ++ source ++ ": The map extracted with key " ++
      documentKey ++ " doesn't contain key " ++ name))

/-- Takes the settings from a document. -/
def ofJson (source : String) : Json → Except ControllerError InfraSettings
  | .obj fields =>
    match field source (.obj fields) "infraID" with
    | .error e => .error e
    | .ok infraId =>
      match field source (.obj fields) "namespace" with
      | .error e => .error e
      | .ok ns => .ok { ns, infraId }
  | _ =>
    .error (.invalidConfig ("configMap " ++ source ++ ": value of key " ++ documentKey ++
      " is not a JSON object"))

/-- Reads the settings; `source` names the config map in errors. -/
def parse (text source : String) : Except ControllerError InfraSettings :=
  match Json.parse? text with
  | some doc => ofJson source doc
  | none =>
    .error (.invalidConfig ("configMap " ++ source ++ ": value of key " ++ documentKey ++
      " is not valid JSON: the document is malformed"))

/-- Loads the settings from a config map of the tenant cluster. -/
def load (ns name : String) : Program (Except ControllerError InfraSettings) := do
  match ← Program.tenant (.getConfigMapValue ns name documentKey) with
  | .error e => pure (.error (.client e))
  | .ok text => pure (parse text (ns ++ "/" ++ name))

end InfraSettings

/-! ### Virtual machines -/

/-- Fixed values of virtual machines. -/
structure ProviderDefaults where
  /-- Memory of a guest when none is asked for. -/
  requestedMemory : String := "2048M"
  /-- Size of the boot volume when none is asked for. -/
  requestedStorage : String := "35Gi"
  /-- Access mode of the boot volume when none is asked for. -/
  persistentVolumeAccessMode : String := "ReadWriteMany"
  /-- The bus of both disks. -/
  diskBus : String := "virtio"
  terminationGracePeriodSeconds : Int := 600
  dataVolumeApiVersion : String := "cdi.kubevirt.io/v1alpha1"
  /-- The name of the boot volume and its disk. -/
  dataVolumeDiskName : String := "datavolumedisk1"
  /-- The name of the volume with the payload and its disk. -/
  cloudInitDiskName : String := "cloudinitdisk"
  /-- The name of the network and its interface. -/
  mainNetworkName : String := "main"
deriving DecidableEq

/-- Everything an operation on a machine is set up with. -/
structure Settings where
  infra : InfraSettings
  defaults : ProviderDefaults := {}
deriving DecidableEq

end MachineActuator
