import Mathlib
import MachineActuator.Environment
import MachineActuator.Proofs.Api.Address
import MachineActuator.Proofs.Cluster.Answer

/-! # An API server with the contents of a cluster

An API server holds the objects of a cluster in memory and answers as that cluster would, in its own
words: with the object that was asked for, or with a refusal whose code and reason say what is wrong
(`Responds`).  It reads a call out of every request, and a run of requests takes it from one cluster
to another (`Exchange`).  What a client reads out of a response is the answer of the cluster, but
for the text of an error (`Responds.sameAnswer`). -/

namespace MachineActuator

open Api

/-! ### Errors of the same kind -/

/-- Neither or both of the errors say that an object is absent, and neither or both that there is
one already. -/
structure ClientError.SameKind (e e' : ClientError) : Prop where
  notFound : e.isNotFound = e'.isNotFound
  alreadyExists : e.isAlreadyExists = e'.isAlreadyExists

/-- The same value, or errors of the same kind. -/
inductive SameAnswer {α : Type} : Except ClientError α → Except ClientError α → Prop
  | ok (a : α) : SameAnswer (.ok a) (.ok a)
  | error {e e' : ClientError} (h : e.SameKind e') : SameAnswer (.error e) (.error e')

/-! ### Responses -/

/-- The response is a refusal with this code and reason. -/
structure Api.Response.Refuses (r : Response) (code : ℕ) (reason : String) : Prop where
  isRefused : r.isRefused = true
  refusal : ∃ text, r.refusal = .refused code reason text

namespace InfraCall

/-- The body of a response reads as what was asked for. -/
def Reads (body : Json) : (call : InfraCall) → call.Result → Prop
  | createVirtualMachine .., vm => VirtualMachine.ofJson? body.sent = some vm
  | getVirtualMachine .., vm => VirtualMachine.ofJson? body.sent = some vm
  | updateVirtualMachine .., vm => VirtualMachine.ofJson? body.sent = some vm
  | deleteVirtualMachine .., done => deleted? VirtualMachine.ofJson? body.sent = some done
  | getInstance .., vmi => VirtualMachineInstance.ofJson? body.sent = some vmi
  | createSecret .., secret => Secret.ofJson? body.sent = some secret

end InfraCall

section Read

variable {α : Type} {dec : Json → Option α} {response : Response}

theorem read_of_accepted (haccepted : response.isRefused = false) {a : α}
    (hbody : dec response.body.sent = some a) : response.read dec = .ok a := by
  unfold Response.read
  rw [haccepted, hbody]
  rfl

theorem lookUp_of_accepted (haccepted : response.isRefused = false) {a : α}
    (hbody : dec response.body.sent = some a) : response.lookUp dec = .ok (some a) := by
  unfold Response.lookUp
  rw [read_of_accepted haccepted hbody]

variable {code : ℕ} {reason : String}

theorem read_of_refuses (h : response.Refuses code reason) (dec : Json → Option α) :
    ∃ text, response.read dec = .error (.refused code reason text) := by
  obtain ⟨text, htext⟩ := h.refusal
  refine ⟨text, ?_⟩
  unfold Response.read
  rw [if_pos h.isRefused, htext]

theorem lookUp_of_refuses (h : response.Refuses code reason) (dec : Json → Option α) :
    (reason = "NotFound" ∧ response.lookUp dec = .ok none) ∨
      (reason ≠ "NotFound" ∧
        ∃ text, response.lookUp dec = .error (.refused code reason text)) := by
  obtain ⟨text, htext⟩ := read_of_refuses h dec
  by_cases hreason : reason = "NotFound"
  · refine .inl ⟨hreason, ?_⟩
    unfold Response.lookUp
    rw [htext]
    exact if_pos hreason
  · refine .inr ⟨hreason, text, ?_⟩
    unfold Response.lookUp
    rw [htext]
    exact if_neg hreason

end Read

namespace InfraCall

variable {response : Response} {call : InfraCall}

/-- The answer of a call is read out of a response that is no refusal. -/
theorem ofResponse_of_accepted (haccepted : response.isRefused = false) {value : call.Result}
    (hbody : call.Reads response.body value) : call.ofResponse response = .ok value := by
  have hread {α : Type} {dec : Json → Option α} {a : α}
      (hdec : dec response.body.sent = some a) :
      (response.read dec).mapError ClientError.kubernetes = .ok a := by
    rw [read_of_accepted haccepted hdec]
    rfl
  cases call with
  | createVirtualMachine ns vm => exact hread hbody
  | getVirtualMachine ns name =>
    unfold ofResponse
    dsimp only
    rw [lookUp_of_accepted haccepted hbody]
    rfl
  | updateVirtualMachine ns vm => exact hread hbody
  | deleteVirtualMachine ns name grace => exact hread hbody
  | getInstance ns name =>
    unfold ofResponse
    dsimp only
    rw [lookUp_of_accepted haccepted hbody]
    rfl
  | createSecret ns secret => exact hread hbody

/-- A refusal is passed on as it is, unless it says that what was looked up is not found. -/
theorem ofResponse_of_refuses {code : ℕ} {reason : String} (h : response.Refuses code reason) :
    (∃ text, call.ofResponse response = .error (.kubernetes (.refused code reason text))) ∨
      (call.IsLookUp ∧ reason = "NotFound" ∧
        ∃ path, call.ofResponse response = .error (.notFound path)) := by
  have hread {α : Type} (dec : Json → Option α) :
      ∃ text, (response.read dec).mapError ClientError.kubernetes =
        .error (.kubernetes (.refused code reason text)) := by
    obtain ⟨text, htext⟩ := read_of_refuses h dec
    exact ⟨text, by rw [htext]; rfl⟩
  cases call with
  | createVirtualMachine ns vm => exact .inl (hread _)
  | getVirtualMachine ns name =>
    unfold ofResponse
    dsimp only
    obtain ⟨hreason, hfound⟩ | ⟨hreason, text, htext⟩ :=
      lookUp_of_refuses h VirtualMachine.ofJson?
    · rw [hfound]
      exact .inr ⟨trivial, hreason, _, rfl⟩
    · rw [htext]
      exact .inl ⟨text, rfl⟩
  | updateVirtualMachine ns vm => exact .inl (hread _)
  | deleteVirtualMachine ns name grace => exact .inl (hread _)
  | getInstance ns name =>
    unfold ofResponse
    dsimp only
    obtain ⟨hreason, hfound⟩ | ⟨hreason, text, htext⟩ :=
      lookUp_of_refuses h VirtualMachineInstance.ofJson?
    · rw [hfound]
      exact .inr ⟨trivial, hreason, _, rfl⟩
    · rw [htext]
      exact .inl ⟨text, rfl⟩
  | createSecret ns secret => exact .inl (hread _)

end InfraCall

/-! ### The server -/

/-- How an API server with the contents of a cluster responds to a call: with what the cluster
answers, by 404 for an object that is absent, by 409 and `AlreadyExists` for one that exists, by 409
and another reason for a version that is out of date, and by any other refusal where the call is
made to fail. -/
inductive Responds (c : InfraCluster) (call : InfraCall) (response : Response) : Prop
  | answered {value : call.Result} (hanswer : (c.answer call).1 = .ok value)
      (haccepted : response.isRefused = false) (hbody : call.Reads response.body value)
  | absent {path reason : String} (hanswer : (c.answer call).1 = .error (.notFound path))
      (hrefuses : response.Refuses 404 reason)
  | duplicate {path : String} (hanswer : (c.answer call).1 = .error (.alreadyExists path))
      (hrefuses : response.Refuses 409 "AlreadyExists")
  | stale {text reason : String} (hworks : c.failures call.operation = none)
      (hanswer : (c.answer call).1 = .error (.api text)) (hrefuses : response.Refuses 409 reason)
      (hreason : reason ≠ "AlreadyExists")
  | failing {text reason : String} {code : ℕ} (hfails : c.failures call.operation = some text)
      (hrefuses : response.Refuses code reason) (hcode : code ≠ 404)
      (hnotFound : reason ≠ "NotFound") (halreadyExists : reason ≠ "AlreadyExists")

/-- A client reads out of a response what the cluster answers. -/
theorem Responds.sameAnswer {c : InfraCluster} {call : InfraCall} {response : Response}
    (h : Responds c call response) : SameAnswer (c.answer call).1 (call.ofResponse response) := by
  cases h with
  | answered hanswer haccepted hbody =>
    rw [hanswer, InfraCall.ofResponse_of_accepted haccepted hbody]
    exact .ok _
  | absent hanswer hrefuses =>
    rw [hanswer]
    obtain ⟨text, htext⟩ | ⟨-, -, path, hpath⟩ := InfraCall.ofResponse_of_refuses hrefuses
    · rw [htext]
      exact .error ⟨rfl, rfl⟩
    · rw [hpath]
      exact .error ⟨rfl, rfl⟩
  | duplicate hanswer hrefuses =>
    rw [hanswer]
    obtain ⟨text, htext⟩ | ⟨-, hreason, -⟩ := InfraCall.ofResponse_of_refuses hrefuses
    · rw [htext]
      exact .error ⟨rfl, rfl⟩
    · simp at hreason
  | stale hworks hanswer hrefuses hreason =>
    obtain ⟨text, htext⟩ | ⟨hlookUp, -, -⟩ := InfraCall.ofResponse_of_refuses hrefuses
    · rw [hanswer, htext]
      refine .error ⟨rfl, ?_⟩
      simp [ClientError.isAlreadyExists, hreason]
    · have houtcome := c.outcome_answer call
      rw [hanswer] at houtcome
      cases houtcome with
      | stale _ hnot => exact absurd hlookUp hnot
      | failing hfails => simp [hworks] at hfails
  | @failing text reason code hfails hrefuses hcode hnotFound halreadyExists =>
    have hanswer : (c.answer call).1 = .error (.api text) := by
      unfold InfraCluster.answer
      rw [hfails]
    obtain ⟨text, htext⟩ | ⟨-, hreason, -⟩ := InfraCall.ofResponse_of_refuses hrefuses
    · rw [hanswer, htext]
      refine .error ⟨?_, ?_⟩
      · simp [ClientError.isNotFound, hcode]
      · simp [ClientError.isAlreadyExists, halreadyExists]
    · exact absurd hreason hnotFound

/-- An API server takes requests and gives responses, and holds the contents of one cluster before
and of another after.  A request that it cannot read changes nothing, and may get any response. -/
inductive Exchange : InfraCluster → List Request → List Response → InfraCluster → Prop
  | nil (c : InfraCluster) : Exchange c [] [] c
  | answered {c c' : InfraCluster} {call : InfraCall} {request : Request} {response : Response}
      {requests : List Request} {responses : List Response}
      (hcall : InfraCall.ofRequest? request = some call) (hresponse : Responds c call response)
      (rest : Exchange (c.answer call).2 requests responses c') :
      Exchange c (request :: requests) (response :: responses) c'
  | unread {c c' : InfraCluster} {request : Request} {response : Response}
      {requests : List Request} {responses : List Response}
      (hcall : InfraCall.ofRequest? request = none) (rest : Exchange c requests responses c') :
      Exchange c (request :: requests) (response :: responses) c'

theorem Exchange.of_call {c c' : InfraCluster} {call : InfraCall} {request : Request}
    {requests : List Request} {responses : List Response}
    (h : Exchange c (request :: requests) responses c')
    (hcall : InfraCall.ofRequest? request = some call) :
    ∃ response rest, responses = response :: rest ∧ Responds c call response ∧
      Exchange (c.answer call).2 requests rest c' := by
  cases h with
  | answered hread hresponse rest =>
    obtain rfl := Option.some.inj (hread.symm.trans hcall)
    exact ⟨_, _, rfl, hresponse, rest⟩
  | unread hread rest =>
    rw [hread] at hcall
    simp at hcall

/-! ### Every call can be answered -/

/-- A refusal with this code and reason. -/
def Api.Response.refusing (code : ℕ) (reason : String) : Response where
  status := code
  body := .ofFields
    [("code", some (.num (.int code))),
     ("message", some (.str "")),
     ("reason", some (.str reason)),
     ("status", some (.str "Failure"))]

theorem refuses_refusing {code : ℕ} (hcode : 400 ≤ code ∧ code < 600) (reason : String) :
    (Response.refusing code reason).Refuses code reason := by
  have hread : refusal? (Response.refusing code reason).body = some (.refused code reason "") := by
    have hfits : Json.nat? 16 (.num (.int code)) = some code := Json.nat?_of_lt (by omega)
    unfold Response.refusing refusal?
    dsimp only
    rw [Json.ofFields_eq_present]
    refine (bind_of_eq_some rfl).trans ?_
    refine (bind_of_eq_some ((Json.ComesThrough.str "Failure").required (by simp))).trans ?_
    refine (bind_of_eq_some ((Json.ComesThrough.str "").orElse (by simp))).trans ?_
    refine (bind_of_eq_some ((Json.ComesThrough.str reason).orElse (by simp))).trans ?_
    refine (bind_of_eq_some ((Json.required_of_find? (by simp)).trans hfits)).trans ?_
    rfl
  constructor
  · unfold Response.isRefused Response.refusing
    dsimp only
    rw [Bool.and_eq_true, decide_eq_true_eq, decide_eq_true_eq]
    exact hcode
  · refine ⟨"", ?_⟩
    unfold Response.refusal
    rw [hread]
    rfl

/-- Every object has the property. -/
def Store.All {α : Type} (P : α → Prop) (s : Store α) : Prop :=
  ∀ ns name a, s ns name = some a → P a

namespace Store.All

variable {α : Type} {P : α → Prop} {s : Store α}

theorem put (h : s.All P) (ns name : String) {a : α} (ha : P a) : (s.put ns name a).All P := by
  intro n m b hb
  obtain ⟨-, -, rfl⟩ | ⟨-, hold⟩ := cases_of_put hb
  · exact ha
  · exact h n m b hold

theorem remove (h : s.All P) (ns name : String) : (s.remove ns name).All P :=
  fun n m b hb => h n m b (of_remove hb).2

end Store.All

namespace InfraCluster

variable {c : InfraCluster} {ns name : String} {call : InfraCall}

/-- All objects that can be asked for are such as a client sets, so the API server can send them. -/
structure Expressible (c : InfraCluster) : Prop where
  virtualMachines : c.virtualMachines.All VirtualMachine.SetByClient
  instances : c.instances.All VirtualMachineInstance.SetByClient

theorem setByClient_admitted {vm : VirtualMachine} (h : vm.SetByClient) (c : InfraCluster)
    (ns : String) : (c.admitted ns vm).SetByClient :=
  ⟨⟨h.metadata.generation, h.metadata.creation, h.metadata.deletion, h.metadata.grace,
    h.metadata.managers⟩, h.spec⟩

theorem setByClient_replaced {vm stored : VirtualMachine} (h : vm.SetByClient)
    (hstored : stored.SetByClient) : (replaced vm stored).SetByClient :=
  ⟨⟨hstored.metadata.generation, hstored.metadata.creation, hstored.metadata.deletion,
    hstored.metadata.grace, hstored.metadata.managers⟩, h.spec⟩

theorem setByClient_spawned {vm : VirtualMachine} (h : vm.SetByClient) (ns name : String) :
    (spawned ns name vm).SetByClient where
  metadata := ⟨rfl, rfl, rfl, rfl, rfl⟩
  fits := by
    unfold spawned
    cases htemplate : vm.spec.template with
    | none =>
      intro n hn
      simp at hn
    | some template => exact (h.spec.template template htemplate).fits

/-- What the cluster holds after a call can be sent again. -/
theorem Expressible.answer (h : c.Expressible) (hcall : call.Sendable ns name) :
    (c.answer call).2.Expressible := by
  have hchanges := c.changes_answer call
  generalize (c.answer call).2 = after at hchanges ⊢
  cases hchanges with
  | unchanged => exact h
  | @created n vm hnew =>
    obtain ⟨-, -, hvm⟩ := hcall
    have hadmitted := setByClient_admitted hvm c n
    refine ⟨h.virtualMachines.put _ _ hadmitted, ?_⟩
    dsimp only
    split_ifs
    · exact h.instances.put _ _ (setByClient_spawned hadmitted _ _)
    · exact h.instances
  | updated hstored =>
    obtain ⟨-, -, hvm⟩ := hcall
    have hreplaced := setByClient_replaced hvm (h.virtualMachines _ _ _ hstored)
    exact ⟨h.virtualMachines.put _ _ hreplaced, h.instances⟩
  | deleted => exact ⟨h.virtualMachines.remove _ _, h.instances.remove _ _⟩
  | provided => exact ⟨h.virtualMachines, h.instances⟩

theorem Expressible.exists_body (h : c.Expressible) (hcall : call.Sendable ns name)
    {value : call.Result} (hvalue : (c.answer call).1 = .ok value) :
    ∃ body, call.Reads body value := by
  have hgives := gives_of_answer hvalue
  cases call with
  | createVirtualMachine n vm =>
    obtain ⟨-, -, hvm⟩ := hcall
    obtain rfl : value = c.admitted n vm := hgives
    exact ⟨_, (setByClient_admitted hvm c n).comesThrough.read_sent⟩
  | getVirtualMachine n m =>
    exact ⟨_, (h.virtualMachines n m value hgives).comesThrough.read_sent⟩
  | updateVirtualMachine n vm =>
    obtain ⟨-, -, hvm⟩ := hcall
    obtain ⟨stored, hstored, rfl | rfl⟩ := hgives
    · have hkept := h.virtualMachines _ _ _ hstored
      exact ⟨_, (setByClient_replaced hvm hkept).comesThrough.read_sent⟩
    · exact ⟨_, (h.virtualMachines _ _ _ hstored).comesThrough.read_sent⟩
  | deleteVirtualMachine n m grace =>
    exact ⟨.ofFields [("kind", some (.str "Status")), ("status", some (.str "Success"))], rfl⟩
  | getInstance n m => exact ⟨_, (h.instances n m value hgives).comesThrough.read_sent⟩
  | createSecret n secret =>
    obtain ⟨-, hsecret⟩ := hcall
    have hsame : value = secret := hgives
    rw [hsame]
    exact ⟨_, (Secret.comesThrough hsecret).read_sent⟩

theorem Expressible.exists_response (h : c.Expressible) (hcall : call.Sendable ns name) :
    ∃ response, Responds c call response := by
  generalize hanswer : (c.answer call).1 = answer
  have houtcome := c.outcome_answer call
  rw [hanswer] at houtcome
  cases houtcome with
  | @ok value hgives =>
    obtain ⟨body, hbody⟩ := h.exists_body hcall hanswer
    exact ⟨⟨200, body⟩, .answered hanswer rfl hbody⟩
  | absent path =>
    exact ⟨.refusing 404 "NotFound", .absent hanswer (refuses_refusing (by decide) _)⟩
  | duplicate path =>
    exact ⟨.refusing 409 "AlreadyExists", .duplicate hanswer (refuses_refusing (by decide) _)⟩
  | stale hworks hnot =>
    exact ⟨.refusing 409 "Conflict",
      .stale hworks hanswer (refuses_refusing (by decide) _) (by decide)⟩
  | failing hfails =>
    exact ⟨.refusing 500 "InternalError", .failing hfails (refuses_refusing (by decide) _)
      (by decide) (by decide) (by decide)⟩

end InfraCluster

end MachineActuator
