import MachineActuator.Api.Call
import MachineActuator.Cluster.Tenant

/-! # Surroundings of a program

What answers the effects of a program: the two clusters in memory, or an API server with a queue of
responses; a table of hosts; and a clock that stands still.  Everything that is published, asked of
the API server, or logged is kept in order. -/

namespace MachineActuator

/-- An API server that answers from a queue. -/
structure ApiServer where
  responses : List Api.Response := []
  /-- Requests so far, the first one first. -/
  requests : List Api.Request := []

namespace ApiServer

/-- The response when the queue is empty. -/
def noResponse : Api.Response where
  status := 503
  body :=
    .ofFields
      [("code", some (.num (.int 503))),
       ("message", some (.str "no canned response")),
       ("reason", some (.str "ServiceUnavailable")),
       ("status", some (.str "Failure"))]

/-- Takes a request and gives the next response. -/
def ask (s : ApiServer) (request : Api.Request) : Api.Response × ApiServer :=
  match s.responses with
  | [] => (noResponse, { s with requests := s.requests ++ [request.received] })
  | response :: rest =>
    (response, { responses := rest, requests := s.requests ++ [request.received] })

end ApiServer

/-- Who answers the calls of the clusters. -/
inductive Route where
  | memory
  | api
deriving DecidableEq

/-- The surroundings of a program. -/
structure Environment where
  infra : InfraCluster := {}
  tenant : TenantCluster := {}
  api : ApiServer := {}
  hosts : String → List Ipv4 := fun _ => []
  now : Instant
  /-- Events so far, the first one first. -/
  events : List MachineEvent := []
  /-- Log lines so far, the first one first. -/
  log : List LogLine := []

namespace Environment

/-- Sends a request to the API server. -/
def ask (env : Environment) (request : Api.Request) : Api.Response × Environment :=
  ((env.api.ask request).1, { env with api := (env.api.ask request).2 })

/-- Writes a line to the log. -/
def logLine (env : Environment) (line : LogLine) : Environment :=
  { env with log := env.log ++ [line] }

/-- Answers a call of the infrastructure cluster from memory. -/
def infraInMemory (env : Environment) (call : InfraCall) :
    Except ClientError call.Result × Environment :=
  ((env.infra.answer call).1, { env with infra := (env.infra.answer call).2 })

/-- Answers a call of the tenant cluster from memory. -/
def tenantInMemory (env : Environment) (call : TenantCall) :
    Except ClientError call.Result × Environment :=
  ((env.tenant.answer call).1, { env with tenant := (env.tenant.answer call).2 })

/-- Answers a call of the infrastructure cluster through the API server. -/
def infraByApi (env : Environment) (call : InfraCall) :
    Except ClientError call.Result × Environment :=
  let env := call.announcement?.elim env env.logLine
  match call.request with
  | .error e => (.error e, env)
  | .ok request => (call.ofResponse (env.ask request).1, (env.ask request).2)

/-- Answers a call of the tenant cluster through the API server. -/
def tenantByApi (env : Environment) (call : TenantCall) :
    Except ClientError call.Result × Environment :=
  match call.request with
  | .error e => (.error e, env)
  | .ok request => (call.ofResponse (env.ask request).1, (env.ask request).2)

/-- Changes the finalizers of a machine through the API server. -/
def changeFinalizers (env : Environment) (ns name : String) (change : FinalizerChange) :
    Except ApiError Unit × Environment :=
  match change.request ns name with
  | .error e => (.error (.notSent e), env)
  | .ok request => (FinalizerChange.ofResponse (env.ask request).1, (env.ask request).2)

def answer (route : Route) (effect : Effect) (env : Environment) :
    effect.Answer × Environment :=
  match effect with
  | .infra call =>
    match route with
    | .memory => env.infraInMemory call
    | .api => env.infraByApi call
  | .tenant call =>
    match route with
    | .memory => env.tenantInMemory call
    | .api => env.tenantByApi call
  | .changeFinalizers ns name change => env.changeFinalizers ns name change
  | .resolve host => (env.hosts host, env)
  | .now => (env.now, env)
  | .publish event => ((), { env with events := env.events ++ [event] })
  | .log line => ((), env.logLine line)

def run {α : Type} (env : Environment) (route : Route) (p : Program α) : α × Environment :=
  p.run (answer route) env

end Environment

end MachineActuator
