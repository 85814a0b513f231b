import MachineActuator.Client.Error
import MachineActuator.Json.Decode
import MachineActuator.Json.Render
import MachineActuator.Json.Sent

/-! # Messages of the API

Requests to an API server and its responses.  The address of a request is made of names as they
are, so a name may hold a question mark, behind which the query begins, or characters that cannot
be sent at all.  A response of status 400 or above carries the status object that says why the
request was refused; any other response carries the object that was asked for.  Either side reads
a body as it came over the wire (`Json.sent`). -/

namespace MachineActuator.Api

inductive Method where
  | get
  | post
  | put
  | patch
  | delete
deriving DecidableEq

def Method.text : Method → String
  | get => "GET"
  | post => "POST"
  | put => "PUT"
  | patch => "PATCH"
  | delete => "DELETE"

/-- What the body of a request is. -/
inductive ContentType where
  | object
  | mergePatch
  | jsonPatch
deriving DecidableEq

def ContentType.text : ContentType → String
  | object => "application/json"
  | mergePatch => "application/merge-patch+json"
  | jsonPatch => "application/json-patch+json"

structure Request where
  method : Method
  path : String
  query : String := ""
  body : Option (ContentType × Json) := none
deriving DecidableEq

structure Response where
  status : Nat
  body : Json
deriving DecidableEq

/-! ### Paths -/

/-- The resources of the core API in a namespace. -/
def corePath (ns resource : String) : String := "/api/v1/namespaces/" ++ ns ++ "/" ++ resource

/-- The virtual machine resources in a namespace. -/
def infraPath (ns resource : String) : String :=
  "/apis/kubevirt.io/v1alpha3/namespaces/" ++ ns ++ "/" ++ resource

def allMachinesPath : String := "/apis/machine.openshift.io/v1beta1/machines"

def machinesPath (ns : String) : String :=
  "/apis/machine.openshift.io/v1beta1/namespaces/" ++ ns ++ "/machines"

def nodesPath : String := "/api/v1/nodes"

/-! ### Requests -/

def Request.to (method : Method) (address : String) (body : Option (ContentType × Json)) :
    Except RequestError Request :=
  match Uri.read address with
  | .ok uri => .ok { method, path := uri.path, query := uri.query, body }
  | .error e => .error (.address e)

/-- The address of an object, which needs a name. -/
def objectAddress (objects name : String) : Except RequestError String :=
  if name.isEmpty then .error .unnamed else .ok (objects ++ "/" ++ name)

def Request.list (objects : String) : Except RequestError Request :=
  Request.to .get objects none

def Request.get (objects name : String) : Except RequestError Request := do
  Request.to .get (← objectAddress objects name) none

def Request.create (objects : String) (body : Json) : Except RequestError Request :=
  Request.to .post (objects ++ "?") (some (.object, body))

def Request.replace (objects name : String) (body : Json) : Except RequestError Request := do
  Request.to .put ((← objectAddress objects name) ++ "?") (some (.object, body))

/-- Merges a patch into an object. -/
def Request.merge (objects name : String) (patch : Json) : Except RequestError Request := do
  Request.to .patch ((← objectAddress objects name) ++ "?") (some (.mergePatch, patch))

/-- Merges a patch into the status of an object. -/
def Request.mergeStatus (objects name : String) (patch : Json) : Except RequestError Request := do
  Request.to .patch ((← objectAddress objects name) ++ "/status?") (some (.mergePatch, patch))

/-- Changes an object step by step. -/
def Request.change (objects name : String) (steps : Json) : Except RequestError Request := do
  Request.to .patch ((← objectAddress objects name) ++ "?") (some (.jsonPatch, steps))

/-- Deletes an object, with a grace period if one is given. -/
def Request.delete (objects name : String) (graceSeconds : Option Nat) :
    Except RequestError Request := do
  Request.to .delete ((← objectAddress objects name) ++ "?")
    (some (.object, .ofFields [("gracePeriodSeconds", graceSeconds.map fun n => .num (.int n))]))

/-- The request as the API server gets it. -/
def Request.received (r : Request) : Request :=
  { r with body := r.body.map fun (type, body) => (type, body.sent) }

/-! ### Responses -/

/-- Reads an object out of a list that was sent. -/
def listed? {α : Type} (dec : Json → Option α) (item : Json) : Option α := dec item.sent

/-- Reads why a request was refused. -/
def refusal? (body : Json) : Option ApiError := do
  let fields ← body.record? ["status", "message", "reason", "code"] 4
  let _ ← Json.required fields "status" Json.str?
  let text ← Json.orElse fields "message" Json.str? ""
  let reason ← Json.orElse fields "reason" Json.str? ""
  let code ← Json.required fields "code" (Json.nat? 16)
  pure (.refused code reason text)

/-- Why a request was refused; a body that does not say is quoted. -/
def Response.refusal (r : Response) : ApiError :=
  (refusal? r.body).getD
    (.refused r.status "Failed to parse error data" (Quoted.quote r.body.render))

def Response.isRefused (r : Response) : Bool := 400 ≤ r.status && r.status < 600

/-- Reads the object that was asked for. -/
def Response.read {α : Type} (dec : Json → Option α) (r : Response) : Except ApiError α :=
  if r.isRefused then .error r.refusal
  else
    match dec r.body.sent with
    | some value => .ok value
    | none => .error (.unreadable "the body has another form")

/-- Reads an object that may be absent. -/
def Response.lookUp {α : Type} (dec : Json → Option α) (r : Response) :
    Except ApiError (Option α) :=
  match r.read dec with
  | .ok value => .ok (some value)
  | .error (.refused code reason text) =>
    if reason = "NotFound" then .ok none else .error (.refused code reason text)
  | .error e => .error e

/-- Reads a cause inside a status object. -/
def statusCause? (v : Json) : Option Unit := do
  let fields ← v.record? ["reason", "message", "field"] 0
  let _ ← Json.orElse fields "reason" Json.str? ""
  let _ ← Json.orElse fields "message" Json.str? ""
  let _ ← Json.orElse fields "field" Json.str? ""

/-- Reads the details inside a status object. -/
def statusDetails? (v : Json) : Option Unit := do
  let fields ← v.record? ["name", "group", "kind", "uid", "causes", "retryAfterSeconds"] 0
  let _ ← Json.orElse fields "name" Json.str? ""
  let _ ← Json.orElse fields "group" Json.str? ""
  let _ ← Json.orElse fields "kind" Json.str? ""
  let _ ← Json.orElse fields "uid" Json.str? ""
  let _ ← Json.orElse fields "causes" (Json.list? statusCause?) []
  let _ ← Json.orElse fields "retryAfterSeconds" (Json.nat? 32) 0

/-- Whether a status object reports success or failure, by a word alone or by a word with nothing
under it. -/
def statusSummary? (v : Json) : Option Unit := do
  let text ← match v with
    | .obj [(text, .null)] => some text
    | v => v.str?
  if text = "Success" ∨ text = "Failure" then some () else none

/-- Reads a status object. -/
def status? (v : Json) : Option Unit := do
  let fields ← v.record? ["status", "code", "message", "reason", "details"] 0
  let _ ← Json.optional fields "status" statusSummary?
  let _ ← Json.orElse fields "code" (Json.nat? 16) 0
  let _ ← Json.orElse fields "message" Json.str? ""
  let _ ← Json.orElse fields "reason" Json.str? ""
  let _ ← Json.optional fields "details" statusDetails?

/-- Reads the answer to a deletion: a status object, or the object that goes away. -/
def deleted? {α : Type} (dec : Json → Option α) (v : Json) : Option Unit :=
  if v.get? "kind" = some (.str "Status") then status? v else (dec v).map fun _ => ()

end MachineActuator.Api
