import MachineActuator.Host.Uri
import MachineActuator.Text.Quoted

/-! # Errors of cluster clients

A call of one of the two clusters fails because no connection can be made or no request sent,
because the API server refused it, because an answer made no sense, or because something that was
asked for is missing or malformed. -/

namespace MachineActuator

/-! ### Requests -/

/-- Why a request cannot be sent. -/
inductive RequestError where
  /-- An object is asked for by an empty name. -/
  | unnamed
  /-- The names in the request do not make up an address. -/
  | address (error : UriError)
deriving DecidableEq

def RequestError.message : RequestError → String
  | unnamed => "failed to validate request: A non-empty name is required"
  | address error => "failed to build request: " ++ error.message

/-! ### Connections -/

/-- Why a user cannot log in. -/
inductive LoginError where
  | unsupportedProvider (name : String)
  | missingIdToken
  | missingTokenSource
  | malformedExpiry
  | commandNotFound (command : String)
  | missingCommand
  | pluginNotFound
  | unreadableTokenFile (path : String)
deriving DecidableEq

/-- The text of the system for a file or program that is not there. -/
def noSuchFile : String := "No such file or directory"

def LoginError.message : LoginError → String
  | unsupportedProvider name =>
    "failed exec auth: Authentication with provider " ++ name ++ " not supported"
  | missingIdToken => "failed exec auth: No id-token for oidc Authentication provider"
  | missingTokenSource =>
    "failed exec auth: Enable oauth feature to use Google Application Credentials-based " ++
      "token source"
  | malformedExpiry =>
    "malformed token expiration date: input contains invalid characters"
  | commandNotFound command =>
    "failed exec auth: Executing " ++ command ++
      " failed: Os \x7b code: 2, kind: NotFound, message: " ++ Quoted.quote noSuchFile ++ " \x7d"
  | missingCommand => "command must be specified to use exec authentication plugin"
  | pluginNotFound => "unable to run auth exec: " ++ noSuchFile ++ " (os error 2)"
  | unreadableTokenFile path =>
    "failed to read token file \x27" ++ Quoted.quote path ++ "\x27: " ++ noSuchFile ++
      " (os error 2)"

/-- Why an encrypted connection cannot be set up. -/
inductive TlsError where
  | malformedAuthority
  | malformedIdentity
  | missingKey
  | missingCertificate
  | unknownKey
  | unusableKey
  | malformedServerName
deriving DecidableEq

def TlsError.message : TlsError → String
  | malformedAuthority =>
    "failed to add a root certificate: invalid peer certificate: BadEncoding"
  | malformedIdentity => "identity PEM is invalid: section end not found"
  | missingKey =>
    "identity PEM is missing a private key: the key must be PKCS8 or RSA/PKCS1"
  | missingCertificate => "identity PEM is missing certificate"
  | unknownKey => "unknown private key format"
  | unusableKey =>
    "invalid private key: unexpected error: failed to parse private key as RSA, ECDSA, or EdDSA"
  | malformedServerName => "invalid server name: invalid dns name"

/-- Why no connection can be made. -/
inductive ConnectionError where
  | proxyDisabled (address : Uri) (feature : String)
  | proxyUnsupported (address : Uri)
  | login (error : LoginError)
  /-- A name that is to be sent along holds characters that cannot be sent. -/
  | unsendableName
  | tls (error : TlsError)
deriving DecidableEq

def ConnectionError.message : ConnectionError → String
  | proxyDisabled address feature =>
    "configured proxy " ++ address.render ++ " requires the disabled feature " ++
      Quoted.quote feature
  | proxyUnsupported address =>
    "configured proxy " ++ address.render ++ " uses an unsupported protocol"
  | login error => "auth error: " ++ error.message
  | unsendableName => "HttpError: failed to parse header value"
  | tls error => "rustls tls error: " ++ error.message

/-! ### Calls -/

/-- Why a request to an API server failed. -/
inductive ApiError where
  | refused (code : Nat) (reason text : String)
  | unreadable (detail : String)
  | notSent (reason : RequestError)
  | noConnection (reason : ConnectionError)
deriving DecidableEq

def ApiError.message : ApiError → String
  | refused _ reason text => "ApiError: " ++ text ++ ": " ++ reason
  | unreadable detail => "Error deserializing response: " ++ detail
  | notSent reason => "Failed to build request: " ++ reason.message
  | noConnection reason => reason.message

/-- Why a call of a cluster failed. -/
inductive ClientError where
  | kubernetes (error : ApiError)
  | api (text : String)
  | notFound (text : String)
  | alreadyExists (text : String)
  | serialization (detail : String)
  | invalidConfig (text : String)
  | kubeconfig (detail : String)
deriving DecidableEq

namespace ClientError

def message : ClientError → String
  | kubernetes error => "Kubernetes error: " ++ error.message
  | api text => "API error: " ++ text
  | notFound text => "Not found: " ++ text
  | alreadyExists text => "Already exists: " ++ text
  | serialization detail => "Serialization error: " ++ detail
  | invalidConfig text => "Invalid configuration: " ++ text
  | kubeconfig detail => "Kubeconfig error: " ++ detail

/-- Whether the error says that the object does not exist. -/
def isNotFound : ClientError → Bool
  | notFound _ => true
  | kubernetes (.refused code _ _) => code = 404
  | _ => false

/-- Whether the error says that an object of the name exists already. -/
def isAlreadyExists : ClientError → Bool
  | alreadyExists _ => true
  | kubernetes (.refused code reason _) => code = 409 && reason = "AlreadyExists"
  | _ => false

end ClientError

end MachineActuator
