import MachineActuator.Yaml.Decode
import MachineActuator.Yaml.Document

/-! # Kubeconfigs

A kubeconfig lists clusters, users and contexts by name, and says which context is current.  A text
may hold several of them, which are merged: what comes first counts. -/

namespace MachineActuator

/-! ### Data -/

/-- A list entry by name. -/
structure NamedEntry (α : Type) where
  name : String
  value : Option α
deriving DecidableEq

/-- How a cluster is reached. -/
structure KubeCluster where
  server : Option String := none
  /-- Certificates of the authorities, in base64. -/
  authorityData : Option String := none
  /-- A file with the certificates. -/
  authority : Option String := none
  proxy : Option String := none
  serverName : Option String := none
deriving DecidableEq

structure TokenProvider where
  name : String
  settings : List (String × String)
deriving DecidableEq

structure KubeUser where
  username : Option String := none
  password : Option String := none
  token : Option String := none
  tokenFile : Option String := none
  certificate : Option String := none
  certificateData : Option String := none
  key : Option String := none
  keyData : Option String := none
  /-- In whose name the user acts. -/
  impersonated : Option String := none
  impersonatedGroups : Option (List String) := none
  provider : Option TokenProvider := none
  /-- A command that logs in, if it is given. -/
  plugin : Option (Option String) := none
deriving DecidableEq

/-- A user within a cluster. -/
structure KubeContext where
  cluster : String
  user : Option String
deriving DecidableEq

/-- A kubeconfig, as far as it leads to a cluster. -/
structure Kubeconfig where
  apiVersion : Option String := none
  kind : Option String := none
  clusters : List (NamedEntry KubeCluster) := []
  users : List (NamedEntry KubeUser) := []
  contexts : List (NamedEntry KubeContext) := []
  currentContext : Option String := none
deriving DecidableEq

namespace Kubeconfig

open Yaml (Value)
open Yaml.Value (required orElse optional)

/-! ### Reading -/

/-- A list of entries by name. -/
def entries? {α : Type} (content : String) (dec : Value → Option α) :
    Value → Option (List (NamedEntry α)) :=
  Value.list? fun v => do
    let fields ← v.fields?
    let name ← required fields "name" Value.text?
    let value ← optional fields content dec
    pure { name, value }

/-- Reads the extensions among the fields, which have to be well formed. -/
def checkExtensions (fields : List (String × Value)) : Option Unit := do
  let _ ← optional fields "extensions" (Value.list? fun v => do
    let fields ← v.fields?
    let _ ← required fields "name" Value.text?
    required fields "extension" fun v => if v.isPlainData then some () else none)

/-- Reads the preferences, which have to be well formed. -/
def checkPreferences (v : Value) : Option Unit := do
  let fields ← v.fields?
  let _ ← optional fields "colors" Value.bool?
  checkExtensions fields

def cluster? (v : Value) : Option KubeCluster := do
  let fields ← v.fields?
  let server ← optional fields "server" Value.text?
  let _ ← optional fields "insecure-skip-tls-verify" Value.bool?
  let authority ← optional fields "certificate-authority" Value.text?
  let authorityData ← optional fields "certificate-authority-data" Value.text?
  let proxy ← optional fields "proxy-url" Value.text?
  let _ ← optional fields "disable-compression" Value.bool?
  let serverName ← optional fields "tls-server-name" Value.text?
  checkExtensions fields
  pure { server, authorityData, authority, proxy, serverName }

def provider? (v : Value) : Option TokenProvider := do
  let fields ← v.fields?
  let name ← required fields "name" Value.text?
  let settings ← orElse fields "config" Value.texts? []
  pure { name, settings }

/-- Whether a value says when a plugin may ask questions. -/
def isInteractiveMode (v : Value) : Bool :=
  match v with
  | .text mode | .tagged mode .null => mode ∈ ["Never", "IfAvailable", "Always"]
  | _ => false

/-- The command of a plugin. -/
def plugin? (v : Value) : Option (Option String) := do
  let fields ← v.fields?
  let _ ← optional fields "apiVersion" Value.text?
  let command ← optional fields "command" Value.text?
  let _ ← optional fields "args" (Value.list? Value.text?)
  let _ ← optional fields "env" (Value.list? Value.texts?)
  let _ ← optional fields "interactiveMode" fun v =>
    if isInteractiveMode v then some () else none
  let _ ← orElse fields "provideClusterInfo" Value.bool? false
  pure command

def user? (v : Value) : Option KubeUser := do
  let fields ← v.fields?
  let username ← optional fields "username" Value.text?
  let password ← optional fields "password" Value.text?
  let token ← optional fields "token" Value.text?
  let tokenFile ← optional fields "tokenFile" Value.text?
  let certificate ← optional fields "client-certificate" Value.text?
  let certificateData ← optional fields "client-certificate-data" Value.text?
  let key ← optional fields "client-key" Value.text?
  let keyData ← optional fields "client-key-data" Value.text?
  let impersonated ← optional fields "as" Value.text?
  let impersonatedGroups ← optional fields "as-groups" (Value.list? Value.text?)
  let provider ← optional fields "auth-provider" provider?
  let plugin ← optional fields "exec" plugin?
  pure
    { username, password, token, tokenFile, certificate, certificateData, key, keyData,
      impersonated, impersonatedGroups, provider, plugin }

def context? (v : Value) : Option KubeContext := do
  let fields ← v.fields?
  let cluster ← required fields "cluster" Value.text?
  let user ← optional fields "user" Value.text?
  let _ ← optional fields "namespace" Value.text?
  checkExtensions fields
  pure { cluster, user }

def ofValue? (v : Value) : Option Kubeconfig := do
  let fields ← v.fields?
  let _ ← optional fields "preferences" checkPreferences
  let clusters ← orElse fields "clusters" (entries? "cluster" cluster?) []
  let users ← orElse fields "users" (entries? "user" user?) []
  let contexts ← orElse fields "contexts" (entries? "context" context?) []
  let currentContext ← optional fields "current-context" Value.text?
  checkExtensions fields
  let kind ← optional fields "kind" Value.text?
  let apiVersion ← optional fields "apiVersion" Value.text?
  pure { apiVersion, kind, clusters, users, contexts, currentContext }

/-! ### Merging -/

/-- Entries with those of new names after them. -/
def mergeEntries {α : Type} (first next : List (NamedEntry α)) : List (NamedEntry α) :=
  first ++ next.filter fun e => first.all (·.name ≠ e.name)

/-- The first of two texts that are there, if they do not differ. -/
def mergeText? (first next : Option String) : Option (Option String) :=
  if first.isSome && next.isSome && first ≠ next then none else some (first <|> next)

/-- A kubeconfig with what it lacks from another one of the same version and kind. -/
def merge? (first next : Kubeconfig) : Option Kubeconfig := do
  pure
    { kind := ← mergeText? first.kind next.kind
      apiVersion := ← mergeText? first.apiVersion next.apiVersion
      clusters := mergeEntries first.clusters next.clusters
      users := mergeEntries first.users next.users
      contexts := mergeEntries first.contexts next.contexts
      currentContext := first.currentContext <|> next.currentContext }

/-- Reads the kubeconfigs of a text. -/
def ofText? (text : String) : Option Kubeconfig := do
  let configs ← (← Value.ofText? text).mapM ofValue?
  configs.foldlM merge? {}

/-! ### Looking up -/

/-- The entry of a name, if it has a value. -/
def find? {α : Type} (entries : List (NamedEntry α)) (name : String) : Option α :=
  (entries.find? (·.name = name)).bind (·.value)

end Kubeconfig

end MachineActuator
