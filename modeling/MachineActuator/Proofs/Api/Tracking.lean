import Mathlib
import MachineActuator.Proofs.Api.Server
import MachineActuator.Proofs.Cluster.Filing

/-! # Programs over memory and over the API

One program is run against a cluster in memory and another against an API server with the contents
of that cluster.  The one tracks the other (`Program.Tracks`) when both ask for the same, whatever
they are answered, as long as the answers are the same but for the texts of errors; only what they
log may differ.  Then the API server goes through the same contents as the cluster, and the results
are related (`Program.Tracks.run`). -/

namespace MachineActuator

open Api

/-! ### Answers -/

namespace InfraCall

/-- A virtual machine in the result is that of this name. -/
def Names (ns name : String) : (call : InfraCall) → call.Result → Prop
  | createVirtualMachine .., vm | getVirtualMachine .., vm | updateVirtualMachine .., vm =>
    vm.metadata.ns.getD ns = ns ∧ vm.metadata.displayName = name
  | _, _ => True

/-- The same answer on both sides, with a virtual machine of this name if there is one in it. -/
structure Matches (ns name : String) (call : InfraCall) (a b : Except ClientError call.Result) :
    Prop where
  same : SameAnswer a b
  named : ∀ value, a = .ok value → call.Names ns name value

end InfraCall

namespace InfraCluster

variable {c : InfraCluster} {ns name : String}

/-- Where virtual machines are filed under their names, a call about one is not answered with
another. -/
theorem Filed.names_answer (h : c.Filed) (hne : name ≠ "") {call : InfraCall}
    (hcall : call.Sendable ns name) {value : call.Result} (hvalue : (c.answer call).1 = .ok value) :
    call.Names ns name value := by
  have hgives := gives_of_answer hvalue
  cases call with
  | createVirtualMachine n vm =>
    obtain ⟨rfl, hname, -⟩ := hcall
    obtain rfl : value = c.admitted n vm := hgives
    exact ⟨rfl, ObjectMeta.displayName_of_name hname⟩
  | getVirtualMachine n m =>
    obtain ⟨rfl, rfl⟩ := hcall
    exact h.place_eq hgives hne
  | updateVirtualMachine n vm =>
    obtain ⟨rfl, hname, -⟩ := hcall
    obtain ⟨stored, hstored, hupdated⟩ := hgives
    rw [hname] at hstored
    have hplace := h.place_eq hstored hne
    obtain rfl | rfl := hupdated
    · exact hplace
    · exact hplace
  | _ => trivial

end InfraCluster

theorem Responds.matches {c : InfraCluster} {ns name : String} {call : InfraCall}
    {response : Response} (h : Responds c call response) (hfiled : c.Filed) (hne : name ≠ "")
    (hcall : call.Sendable ns name) :
    call.Matches ns name (c.answer call).1 (call.ofResponse response) :=
  ⟨h.sameAnswer, fun _ hvalue => hfiled.names_answer hne hcall hvalue⟩

/-! ### Tracking -/

/-- The effect is answered by neither cluster, and changes neither. -/
def Effect.IsLocal : Effect → Prop
  | .resolve _ | .now | .log _ => True
  | _ => False

/-- Both programs ask for the same, and their results are related, whatever matching answers they
get to calls about the virtual machine of this name. -/
inductive Program.Tracks (ns name : String) {α β : Type} (R : α → β → Prop) :
    Program α → Program β → Prop
  | done {a : α} {b : β} (h : R a b) : Tracks ns name R (.done a) (.done b)
  | called {call : InfraCall} {next : (Effect.infra call).Answer → Program α}
      {next' : (Effect.infra call).Answer → Program β} (hcall : call.Sendable ns name)
      (h : ∀ a b, call.Matches ns name a b → Tracks ns name R (next a) (next' b)) :
      Tracks ns name R (.perform (.infra call) next) (.perform (.infra call) next')
  | own {e : Effect} {next : e.Answer → Program α} {next' : e.Answer → Program β}
      (he : e.IsLocal) (h : ∀ a, Tracks ns name R (next a) (next' a)) :
      Tracks ns name R (.perform e next) (.perform e next')
  | logged {line line' : LogLine} {next : (Effect.log line).Answer → Program α}
      {next' : (Effect.log line').Answer → Program β} (h : Tracks ns name R (next ()) (next' ())) :
      Tracks ns name R (.perform (.log line) next) (.perform (.log line') next')

namespace Program

variable {α β γ δ : Type} {ns name : String} {Q : α → β → Prop} {R : γ → δ → Prop}

theorem tracks_pure {a : α} {b : β} (h : Q a b) :
    (pure a : Program α).Tracks ns name Q (pure b) := .done h

theorem tracks_infra {call : InfraCall} (hcall : call.Sendable ns name) :
    (infra call).Tracks ns name (call.Matches ns name) (infra call) :=
  .called hcall fun _ _ h => .done h

theorem tracks_log (level level' : LogLevel) (text text' : String) :
    (log level text).Tracks ns name (fun _ _ => True) (log level' text') :=
  .logged (.done trivial)

theorem Tracks.bind {p : Program α} {q : Program β} (hp : p.Tracks ns name Q q)
    {f : α → Program γ} {g : β → Program δ}
    (hf : ∀ a b, Q a b → (f a).Tracks ns name R (g b)) :
    (p >>= f).Tracks ns name R (q >>= g) := by
  induction hp with
  | done h => exact hf _ _ h
  | called hcall _ ih => exact .called hcall fun a b hab => ih a b hab
  | own he _ ih => exact .own he ih
  | logged _ ih => exact .logged ih

/-- A program that keeps away from the clusters tracks itself. -/
theorem Only.tracks {p : Program α} (h : p.Only Effect.IsLocal) : p.Tracks ns name Eq p := by
  induction p with
  | done a => exact .done rfl
  | perform e next ih => exact .own h.1 fun a => ih a (h.2 a)

end Program

/-! ### Requests of a run -/

namespace Environment

variable {α : Type}

theorem run_of_answer {route : Route} {e : Effect} {next : e.Answer → Program α} {a : e.Answer}
    {env env' : Environment} (h : answer route e env = (a, env')) :
    env.run route (.perform e next) = env'.run route (next a) := by
  unfold run
  rw [Program.run_perform, h]

theorem ask_requests (env : Environment) (request : Request) :
    (env.ask request).2.api.requests = env.api.requests ++ [request.received] := by
  unfold ask ApiServer.ask
  cases env.api.responses with
  | nil => rfl
  | cons response rest => rfl

/-- The line that is logged before a request leaves everything else as it is. -/
theorem announced_eq (env : Environment) (call : InfraCall) :
    (call.announcement?.elim env env.logLine).api = env.api ∧
      (call.announcement?.elim env env.logLine).hosts = env.hosts ∧
      (call.announcement?.elim env env.logLine).now = env.now := by
  cases call.announcement? with
  | none => exact ⟨rfl, rfl, rfl⟩
  | some line => exact ⟨rfl, rfl, rfl⟩

theorem prefix_requests_answer (env : Environment) (e : Effect) :
    env.api.requests <+: (answer .api e env).2.api.requests := by
  have hask (request : Request) : env.api.requests <+: (env.ask request).2.api.requests := by
    rw [ask_requests]
    exact List.prefix_append _ _
  cases e with
  | infra call =>
    simp only [answer, infraByApi]
    obtain ⟨hapi, -, -⟩ := env.announced_eq call
    cases call.request with
    | error e => simp [hapi]
    | ok request =>
      dsimp only
      rw [ask_requests, hapi]
      exact List.prefix_append _ _
  | tenant call =>
    simp only [answer, tenantByApi]
    cases call.request with
    | error e => exact List.prefix_refl _
    | ok request => exact hask request
  | changeFinalizers ns name change =>
    simp only [answer, changeFinalizers]
    cases change.request ns name with
    | error e => exact List.prefix_refl _
    | ok request => exact hask request
  | _ => exact List.prefix_refl _

theorem prefix_requests_run (p : Program α) (env : Environment) :
    env.api.requests <+: (env.run .api p).2.api.requests := by
  induction p generalizing env with
  | done a => exact List.prefix_refl _
  | perform e next ih => exact (env.prefix_requests_answer e).trans (ih _ _)

theorem requests_infraByApi {env : Environment} {call : InfraCall} {request : Request}
    (hrequest : call.request = .ok request) :
    (env.infraByApi call).2.api.requests = env.api.requests ++ [request.received] := by
  simp only [infraByApi, hrequest]
  rw [ask_requests, (env.announced_eq call).1]

/-- The environment where the API server has these responses in its queue. -/
def withResponses (env : Environment) (responses : List Response) : Environment :=
  { env with api := { env.api with responses } }

/-- The environment after a call was announced and its request was asked. -/
def asked (env : Environment) (call : InfraCall) (request : Request) : Environment :=
  { call.announcement?.elim env env.logLine with
    api := { env.api with requests := env.api.requests ++ [request.received] } }

theorem asked_eq (env : Environment) (call : InfraCall) (request : Request) :
    (env.asked call request).hosts = env.hosts ∧ (env.asked call request).now = env.now :=
  (env.announced_eq call).2

/-- A call whose request can be sent is answered with the next response. -/
theorem infraByApi_withResponses (env : Environment) {call : InfraCall} {request : Request}
    (hrequest : call.request = .ok request) (response : Response) (rest : List Response) :
    (env.withResponses (response :: rest)).infraByApi call =
      (call.ofResponse response, (env.asked call request).withResponses rest) := by
  simp only [infraByApi, hrequest]
  unfold asked
  cases call.announcement? with
  | none => rfl
  | some line => rfl

/-- Of a run that begins with a call, the first exchange is that of the call. -/
theorem exists_response_of_exchange {env : Environment} {call : InfraCall} {request : Request}
    {next : (Effect.infra call).Answer → Program α} {c c' : InfraCluster} {asked : List Request}
    (hrequest : call.request = .ok request)
    (hread : InfraCall.ofRequest? request.received = some call)
    (hasked : (env.run .api (.perform (.infra call) next)).2.api.requests =
      env.api.requests ++ asked)
    (hexchange : Exchange c asked env.api.responses c') :
    ∃ response rest later, Responds c call response ∧
      env.run .api (.perform (.infra call) next) =
        ((env.asked call request).withResponses rest).run .api (next (call.ofResponse response)) ∧
      (((env.asked call request).withResponses rest).run .api
          (next (call.ofResponse response))).2.api.requests =
        (env.asked call request).api.requests ++ later ∧
      Exchange (c.answer call).2 later rest c' := by
  obtain ⟨later, hlater⟩ := prefix_requests_run (next (env.infraByApi call).1)
    (env.infraByApi call).2
  have hfirst : asked = request.received :: later := by
    rw [requests_infraByApi hrequest, List.append_assoc] at hlater
    exact List.append_cancel_left (hasked.symm.trans hlater.symm)
  rw [hfirst] at hexchange
  obtain ⟨response, rest, hresponses, hresponds, hrest⟩ := hexchange.of_call hread
  have hanswer := env.infraByApi_withResponses hrequest response rest
  have hqueue : env.withResponses (response :: rest) = env := by
    rw [← hresponses]
    rfl
  rw [hqueue] at hanswer
  rw [hanswer] at hlater
  exact ⟨response, rest, later, hresponds, run_of_answer hanswer, hlater.symm, hrest⟩

end Environment

/-! ### Runs -/

namespace Effect.IsLocal

variable {e : Effect}

theorem answer_eq (h : e.IsLocal) {env env' : Environment} (hhosts : env'.hosts = env.hosts)
    (hnow : env'.now = env.now) :
    (Environment.answer .api e env').1 = (Environment.answer .memory e env).1 := by
  cases e with
  | resolve host => exact congrFun hhosts host
  | now => exact hnow
  | log line => rfl
  | _ => exact False.elim h

theorem keeps (h : e.IsLocal) (route : Route) (env : Environment) :
    (Environment.answer route e env).2.infra = env.infra ∧
      (Environment.answer route e env).2.api = env.api ∧
      (Environment.answer route e env).2.hosts = env.hosts ∧
      (Environment.answer route e env).2.now = env.now := by
  cases e with
  | resolve host => exact ⟨rfl, rfl, rfl, rfl⟩
  | now => exact ⟨rfl, rfl, rfl, rfl⟩
  | log line => exact ⟨rfl, rfl, rfl, rfl⟩
  | _ => exact False.elim h

end Effect.IsLocal

namespace Program

variable {α β : Type} {ns name : String} {R : α → β → Prop} {p : Program α} {q : Program β}

/-- A program runs over memory as the one that tracks it runs over an API server with the same
contents: the results are related, and the contents are the same again. -/
theorem Tracks.run (h : p.Tracks ns name R q) (haddress : Addressable ns name)
    {env env' : Environment} (hfiled : env.infra.Filed) (hhosts : env'.hosts = env.hosts)
    (hnow : env'.now = env.now) {asked : List Request} {c' : InfraCluster}
    (hasked : (env'.run .api q).2.api.requests = env'.api.requests ++ asked)
    (hexchange : Exchange env.infra asked env'.api.responses c') :
    R (env.run .memory p).1 (env'.run .api q).1 ∧ (env.run .memory p).2.infra = c' := by
  induction h generalizing env env' asked with
  | done h =>
    have hnone : asked = [] := List.append_right_eq_self.mp hasked.symm
    rw [hnone] at hexchange
    generalize env'.api.responses = responses at hexchange
    cases hexchange
    exact ⟨h, rfl⟩
  | @called call next next' hcall _ ih =>
    obtain ⟨request, hrequest, hread⟩ := InfraCall.ofRequest?_request haddress hcall
    obtain ⟨response, rest, later, hresponds, hrun, hlater, hrest⟩ :=
      Environment.exists_response_of_exchange hrequest hread hasked hexchange
    have hmatches := hresponds.matches hfiled haddress.nonempty hcall
    have hkept : (env.infraInMemory call).2.infra.Filed := hfiled.answer call
    obtain ⟨hhosts', hnow'⟩ := env'.asked_eq call request
    rw [hrun]
    exact ih _ _ hmatches hkept (hhosts'.trans hhosts) (hnow'.trans hnow) hlater hrest
  | @own e next next' he _ ih =>
    obtain ⟨hinfra, -, hhosts₁, hnow₁⟩ := he.keeps .memory env
    obtain ⟨-, hapi, hhosts₂, hnow₂⟩ := he.keeps .api env'
    have hanswer : (Environment.answer .api e env').1 = (Environment.answer .memory e env).1 :=
      he.answer_eq hhosts hnow
    have hrun : (env'.run .api (.perform e next')) =
        (Environment.answer .api e env').2.run .api
          (next' (Environment.answer .memory e env).1) :=
      Environment.run_of_answer (Prod.ext hanswer rfl)
    rw [hrun] at hasked ⊢
    rw [← hapi] at hasked hexchange
    rw [← hinfra] at hexchange hfiled
    refine ih _ hfiled ?_ ?_ hasked hexchange
    · rw [hhosts₁, hhosts₂, hhosts]
    · rw [hnow₁, hnow₂, hnow]
  | logged _ ih => exact ih hfiled hhosts hnow hasked hexchange

end Program

/-! ### There is always such a server -/

theorem Effect.IsLocal.answer_withResponses {e : Effect} (h : e.IsLocal) (env : Environment)
    (responses : List Response) :
    Environment.answer .api e (env.withResponses responses) =
      ((Environment.answer .api e env).1,
        (Environment.answer .api e env).2.withResponses responses) := by
  cases e with
  | resolve host => rfl
  | now => rfl
  | log line => rfl
  | _ => exact False.elim h

namespace Program

variable {α β : Type} {ns name : String} {R : α → β → Prop} {p : Program α} {q : Program β}

/-- A program that is tracked can be run over an API server with the same contents, if these can be
sent. -/
theorem Tracks.exists_exchange (h : p.Tracks ns name R q) (haddress : Addressable ns name)
    {env env' : Environment} (hfiled : env.infra.Filed) (hexpressible : env.infra.Expressible)
    (hhosts : env'.hosts = env.hosts) (hnow : env'.now = env.now) :
    ∃ responses asked c',
      ((env'.withResponses responses).run .api q).2.api.requests = env'.api.requests ++ asked ∧
        Exchange env.infra asked responses c' := by
  induction h generalizing env env' with
  | done h => exact ⟨[], [], _, (List.append_nil _).symm, .nil _⟩
  | @called call next next' hcall _ ih =>
    obtain ⟨request, hrequest, hread⟩ := InfraCall.ofRequest?_request haddress hcall
    obtain ⟨response, hresponds⟩ := hexpressible.exists_response hcall
    have hmatches := hresponds.matches hfiled haddress.nonempty hcall
    have hkept : (env.infraInMemory call).2.infra.Filed := hfiled.answer call
    have hexpressible' : (env.infraInMemory call).2.infra.Expressible := hexpressible.answer hcall
    obtain ⟨hhosts', hnow'⟩ := env'.asked_eq call request
    obtain ⟨rest, asked, c', hasked, hexchange⟩ :=
      ih _ _ hmatches hkept hexpressible' (hhosts'.trans hhosts) (hnow'.trans hnow)
    refine ⟨response :: rest, request.received :: asked, c', ?_,
      .answered hread hresponds hexchange⟩
    have hrun : ((env'.withResponses (response :: rest)).run .api
        (.perform (.infra call) next')) =
        ((env'.asked call request).withResponses rest).run .api
          (next' (call.ofResponse response)) :=
      Environment.run_of_answer (env'.infraByApi_withResponses hrequest response rest)
    rw [hrun, hasked]
    exact List.append_assoc _ _ _
  | @own e next next' he _ ih =>
    obtain ⟨hinfra, -, hhosts₁, hnow₁⟩ := he.keeps .memory env
    obtain ⟨-, hapi, hhosts₂, hnow₂⟩ := he.keeps .api env'
    rw [← hinfra] at hfiled hexpressible
    have hhosts' : (Environment.answer .api e env').2.hosts =
        (Environment.answer .memory e env).2.hosts := by rw [hhosts₁, hhosts₂, hhosts]
    have hnow' : (Environment.answer .api e env').2.now =
        (Environment.answer .memory e env).2.now := by rw [hnow₁, hnow₂, hnow]
    obtain ⟨responses, asked, c', hasked, hexchange⟩ :=
      ih (Environment.answer .memory e env).1 hfiled hexpressible hhosts' hnow'
    rw [hapi] at hasked
    rw [hinfra] at hexchange
    refine ⟨responses, asked, c', ?_, hexchange⟩
    rw [Environment.run_of_answer (he.answer_withResponses env' responses), ← hasked,
      he.answer_eq hhosts hnow]
  | @logged line line' next next' _ ih =>
    have hhosts' : (env'.logLine line').hosts = env.hosts := hhosts
    exact ih hfiled hexpressible hhosts' hnow

end Program

end MachineActuator
