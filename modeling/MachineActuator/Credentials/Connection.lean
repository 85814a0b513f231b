import MachineActuator.Client.Error
import MachineActuator.Credentials.Der
import MachineActuator.Credentials.Kubeconfig
import MachineActuator.Credentials.Pem
import MachineActuator.Host.ServerName
import MachineActuator.Time.Rfc3339

/-! # Connections

A kubeconfig leads to a cluster when its current context is there and the cluster of the context has
the address of a server and readable certificates (`Kubeconfig.connection`).  The connection can be
opened when no proxy stands in between, the user can log in, and the certificates, keys and names
make sense (`Connection.check`).  No files and no other programs are there to be used. -/

namespace MachineActuator

/-- Why a kubeconfig leads nowhere. -/
inductive KubeconfigError where
  | malformed
  | noCurrentContext
  | missingContext (name : String)
  | missingCluster (name : String)
  | missingServer
  | address (error : UriError)
  | authority
deriving DecidableEq

def KubeconfigError.message : KubeconfigError → String
  | malformed => "the document is no kubeconfig"
  | noCurrentContext => "no context is current"
  | missingContext name => "the context " ++ name ++ " is missing"
  | missingCluster name => "the cluster " ++ name ++ " is missing"
  | missingServer => "the cluster has no server"
  | address error => "the address is malformed: " ++ error.message
  | authority => "the certificates of the authority cannot be read"

/-- What a cluster client connects to. -/
structure Connection where
  server : Uri
  /-- Certificates of the authorities, unless the usual ones count. -/
  authorities : Option (List ByteArray) := none
  proxy : Option Uri := none
  user : KubeUser := {}
  serverName : Option String := none
deriving DecidableEq

/-- The certificates of the authorities of a cluster. -/
def KubeCluster.authorities (c : KubeCluster) :
    Except KubeconfigError (Option (List ByteArray)) :=
  if c.authority.isNone && c.authorityData.isNone then .ok none
  else
    match c.authorityData >>= Pem.load? >>= Pem.read? with
    | some sections =>
      .ok (some ((sections.filter (·.label = "CERTIFICATE")).map (·.contents)))
    | none => .error .authority

def Kubeconfig.address (text : String) : Except KubeconfigError Uri :=
  (Uri.read text).mapError .address

/-- The connection that a kubeconfig leads to.  A user that is missing has no credentials. -/
def Kubeconfig.connection (k : Kubeconfig) : Except KubeconfigError Connection := do
  let some name := k.currentContext | throw .noCurrentContext
  let some context := find? k.contexts name | throw (.missingContext name)
  let some cluster := find? k.clusters context.cluster | throw (.missingCluster context.cluster)
  let some server := cluster.server | throw .missingServer
  let server ← address server
  let authorities ← cluster.authorities
  let proxy ← (cluster.proxy.filter (· ≠ "")).mapM address
  let user := (context.user.bind (find? k.users)).getD {}
  pure { server, authorities, proxy, user, serverName := cluster.serverName }

/-! ### Logging in -/

namespace TokenProvider

/-- Whether an access token can still be used for a minute. -/
def hasFreshToken (p : TokenProvider) (now : Instant) : Except LoginError Bool :=
  match p.settings.lookup "access-token", p.settings.lookup "expiry" with
  | some _, some text =>
    match Rfc3339.read? text with
    | some expiry => .ok (decide (60 * 1000000000 < expiry.since now))
    | none => .error .malformedExpiry
  | _, _ => .ok false

/-- Whether a provider can give a token. -/
def check (p : TokenProvider) (now : Instant) : Except LoginError Unit := do
  let hasToken := (p.settings.lookup "id-token").isSome
  if p.name = "oidc" then
    if hasToken then pure () else throw .missingIdToken
  else if p.name = "gcp" then
    if hasToken then pure ()
    else if ← p.hasFreshToken now then pure ()
    else
      match p.settings.lookup "cmd-path" with
      | some command => throw (.commandNotFound command)
      | none => throw .missingTokenSource
  else throw (.unsupportedProvider p.name)

end TokenProvider

namespace KubeUser

/-- Whether a user can log in, by the first of the ways that are given. -/
def login (u : KubeUser) (now : Instant) : Except LoginError Unit :=
  match u.provider with
  | some p => p.check now
  | none =>
    if (u.username.isSome && u.password.isSome) || u.token.isSome then .ok ()
    else
      match u.tokenFile, u.plugin with
      | some path, _ => .error (.unreadableTokenFile path)
      | none, some none => .error .missingCommand
      | none, some (some _) => .error .pluginNotFound
      | none, none => .ok ()

/-- What a user proves to be with a certificate, as sections of one text. -/
def identity (u : KubeUser) : Option ByteArray := do
  let certificate ← u.certificateData >>= Pem.load?
  let key ← u.keyData >>= Pem.load?
  pure (key ++ certificate)

/-- The sections that hold keys. -/
def keyLabels : List String := ["PRIVATE KEY", "RSA PRIVATE KEY", "EC PRIVATE KEY"]

/-- Sections that have no place in an identity. -/
def strangeLabels : List String := ["PUBLIC KEY", "X509 CRL", "CERTIFICATE REQUEST"]

/-- Whether a certificate and a key are there, if any. -/
def checkIdentity (u : KubeUser) : Except TlsError Unit :=
  match u.identity with
  | none => .ok ()
  | some bytes =>
    match Pem.read? bytes with
    | none => .error .malformedIdentity
    | some sections =>
      if sections.any (·.label ∈ strangeLabels) then .error .unknownKey
      else
        match sections.find? (·.label ∈ keyLabels) with
        | none => .error .missingKey
        | some key =>
          if sections.all (·.label ≠ "CERTIFICATE") then .error .missingCertificate
          else if Der.isKey key.contents then .ok ()
          else .error .unusableKey

/-- Whether a name can be sent along with a request. -/
def isSendable (name : String) : Bool :=
  name.toList.all fun c => (' ' ≤ c && c ≤ '~') || c = '\t'

/-- The names in which a user acts. -/
def impersonations (u : KubeUser) : List String :=
  u.impersonated.toList ++ u.impersonatedGroups.getD []

end KubeUser

/-! ### Opening -/

namespace Connection

/-- Why there is no connection through a proxy. -/
def proxyError (proxy : Uri) : ConnectionError :=
  if proxy.scheme = "http" then .proxyDisabled proxy "kube/http-proxy"
  else if proxy.scheme = "socks5" then .proxyDisabled proxy "kube/socks5"
  else .proxyUnsupported proxy

/-- Whether a connection can be encrypted. -/
def checkTls (c : Connection) : Except TlsError Unit := do
  if !(c.authorities.getD []).all Der.isCertificate then throw .malformedAuthority
  c.user.checkIdentity
  if !c.serverName.all ServerName.isValid then throw .malformedServerName

/-- Whether a connection can be opened. -/
def check (c : Connection) (now : Instant) : Except ConnectionError Unit := do
  if let some proxy := c.proxy then throw (proxyError proxy)
  (c.user.login now).mapError .login
  c.checkTls.mapError .tls
  if !c.user.impersonations.all KubeUser.isSendable then throw .unsendableName

end Connection

end MachineActuator
