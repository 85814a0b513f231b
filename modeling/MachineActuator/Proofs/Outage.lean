import Mathlib
import MachineActuator.Proofs.Cluster.Frame
import MachineActuator.Proofs.Machine.Effects
import MachineActuator.Proofs.Machine.StatusPatch

/-! # Outages of the infrastructure

A virtual machine that cannot be looked up is not one that is absent.  As long as every look-up of a
virtual machine fails, and not because there is none, an operation only looks up, asks for the time,
logs and publishes events, and it ends with an error that carries no fixed delay
(`Program.Refuses`).  Whoever answers its effects then finds both clusters as they were
(`refused_during_outage`), be it the clusters in memory or an API server. -/

namespace MachineActuator

/-! ### Answers as expected -/

namespace Program

variable {α β : Type} {A : (e : Effect) → e.Answer → Prop} {P : Effect → Prop} {Q : α → Prop}
  {R : β → Prop} {p : Program α}

/-- As long as every answer is as expected, every effect has the property `P`; and so has every
result the property `Q`. -/
def EnsuresIf (A : (e : Effect) → e.Answer → Prop) (P : Effect → Prop) (Q : α → Prop) :
    Program α → Prop
  | done a => Q a
  | perform e next => P e ∧ ∀ answer, A e answer → (next answer).EnsuresIf A P Q

theorem ensuresIf_pure {a : α} (h : Q a) : (pure a : Program α).EnsuresIf A P Q := h

theorem ensuresIf_effect {e : Effect} {Q : e.Answer → Prop} (he : P e)
    (h : ∀ answer, A e answer → Q answer) : (effect e).EnsuresIf A P Q := ⟨he, h⟩

theorem EnsuresIf.bind (hp : p.EnsuresIf A P Q) {f : α → Program β}
    (hf : ∀ a, Q a → (f a).EnsuresIf A P R) : (p >>= f).EnsuresIf A P R := by
  induction p with
  | done value => exact hf value hp
  | perform e next ih =>
    obtain ⟨he, hnext⟩ := hp
    exact ⟨he, fun answer hanswer => ih answer (hnext answer hanswer)⟩

/-- A run in which all answers are as expected has a result as expected, and keeps what no effect of
the program falsifies. -/
theorem EnsuresIf.run {σ : Type} {answer : (e : Effect) → σ → e.Answer × σ} {I : σ → Prop}
    (hp : p.EnsuresIf A P Q)
    (hanswer : ∀ e s, P e → I s → A e (answer e s).1 ∧ I (answer e s).2) {s : σ} (hs : I s) :
    Q (p.run answer s).1 ∧ I (p.run answer s).2 := by
  induction p generalizing s with
  | done value => exact ⟨hp, hs⟩
  | perform e next ih =>
    obtain ⟨hexpected, hafter⟩ := hanswer e s hp.1 hs
    exact ih _ (hp.2 _ hexpected) hafter

/-- In such a run of nobody but the program every step has the property. -/
theorem EnsuresIf.steps {I : Environment → Prop} (hp : p.EnsuresIf A P Q)
    (hanswer : ∀ e env, P e → I env → A e (Step.mk e env).answer ∧ I (Step.mk e env).after)
    {env : Environment} (henv : I env) : ∀ step ∈ p.steps env, P step.effect := by
  induction p generalizing env with
  | done value => simp [Program.steps]
  | perform e next ih =>
    obtain ⟨hexpected, hafter⟩ := hanswer e env hp.1 henv
    exact List.forall_mem_cons.mpr ⟨hp.1, ih _ (hp.2 _ hexpected) hafter⟩

end Program

open Program (EnsuresIf ensuresIf_pure ensuresIf_effect)

/-! ### Refusing -/

/-- Effects that change neither cluster. -/
def Effect.IsPassive : Effect → Prop
  | .infra (.getVirtualMachine ..) | .now | .publish _ | .log _ => True
  | _ => False

/-- The answer is not that a virtual machine was found, nor that there is none. -/
def LookUpFails : (e : Effect) → e.Answer → Prop
  | .infra (.getVirtualMachine _ _), answer => ∃ e, answer = .error e ∧ e.isNotFound = false
  | _, _ => True

/-- The result is an error that does not ask to be looked at again after a fixed time. -/
def FailsPlainly {α : Type} (r : Except ControllerError α) : Prop :=
  ∃ e, r = .error e ∧ e.requeueDelay? = none

/-- As long as no virtual machine can be looked up, the program changes nothing and fails. -/
abbrev Program.Refuses {α : Type} (p : Program (Except ControllerError α)) : Prop :=
  p.EnsuresIf LookUpFails Effect.IsPassive FailsPlainly

theorem Scope.requeueDelay?_of_ofMachine {settings : Settings} {m : Machine} {e : ControllerError}
    (h : ofMachine settings m = .error e) : e.requeueDelay? = none := by
  unfold ofMachine at h
  dsimp only at h
  split_ifs at h
  · obtain rfl := Except.error.inj h
    rfl
  · split at h
    · obtain rfl := Except.error.inj h
      rfl
    · simp at h

theorem Scope.requeueDelay?_of_accessMode {s : Scope} {e : ControllerError}
    (h : s.accessMode = .error e) : e.requeueDelay? = none := by
  unfold accessMode at h
  dsimp only at h
  split_ifs at h
  obtain rfl := Except.error.inj h
  rfl

theorem Scope.requeueDelay?_of_virtualMachine {s : Scope} {e : ControllerError}
    (h : s.virtualMachine = .error e) : e.requeueDelay? = none := by
  unfold virtualMachine at h
  split at h
  · obtain rfl := Except.error.inj h
    rfl
  · split at h
    · next hmode =>
      obtain rfl := Except.error.inj h
      exact requeueDelay?_of_accessMode hmode
    · simp at h

section Rules

variable {α β : Type} {A : (e : Effect) → e.Answer → Prop}

theorem ensuresIf_log (level : LogLevel) (text : String) :
    (Program.log level text).EnsuresIf A Effect.IsPassive fun _ => True :=
  ensuresIf_effect trivial fun _ _ => trivial

/-- What follows a look-up of a virtual machine only has to refuse an error. -/
theorem refuses_lookUp {ns name : String}
    {f : Except ClientError VirtualMachine → Program (Except ControllerError α)}
    (h : ∀ e, e.isNotFound = false → (f (.error e)).Refuses) :
    (Program.infra (.getVirtualMachine ns name) >>= f).Refuses := by
  refine EnsuresIf.bind (ensuresIf_effect trivial fun _ hanswer => hanswer) ?_
  rintro answer ⟨e, rfl, he⟩
  exact h e he

/-- What follows a program that refuses only has to refuse its error. -/
theorem Program.Refuses.bind {p : Program (Except ControllerError α)} (hp : p.Refuses)
    {f : Except ControllerError α → Program (Except ControllerError β)}
    (h : ∀ e, e.requeueDelay? = none → (f (.error e)).Refuses) : (p >>= f).Refuses := by
  refine EnsuresIf.bind hp ?_
  rintro result ⟨e, rfl, he⟩
  exact h e he

theorem refuses_pure {e : ControllerError} (he : e.requeueDelay? = none) :
    (pure (.error e) : Program (Except ControllerError α)).Refuses :=
  ensuresIf_pure ⟨e, rfl, he⟩

end Rules

/-! ### The life of a virtual machine -/

namespace Lifecycle

variable (s : Scope)

theorem refuses_stepFailed {α : Type} (machine : String) (action : MachineAction) (what : String)
    {source : ControllerError} (hsource : source.requeueDelay? = none) :
    (stepFailed machine action what source : Program (Except ControllerError α)).Refuses := by
  unfold stepFailed
  exact EnsuresIf.bind (ensuresIf_log _ _) fun _ _ => refuses_pure hsource

theorem refuses_update : (update Scope.sync s).Refuses := by
  unfold update
  cases hvm : s.virtualMachine with
  | error e => exact refuses_stepFailed _ _ _ (Scope.requeueDelay?_of_virtualMachine hvm)
  | ok desired =>
    refine refuses_lookUp fun e he => ?_
    dsimp only
    rw [he]
    exact refuses_stepFailed _ _ _ rfl

theorem refuses_delete : (delete s).Refuses := by
  unfold delete
  refine refuses_lookUp fun e he => ?_
  dsimp only
  rw [he]
  exact refuses_stepFailed _ _ _ rfl

theorem refuses_exists? (machine infraNs : String) : (exists? machine infraNs).Refuses := by
  unfold exists?
  refine EnsuresIf.bind (ensuresIf_log _ _) fun _ _ => refuses_lookUp fun e he => ?_
  dsimp only
  rw [he]
  exact refuses_stepFailed _ _ _ rfl

end Lifecycle

/-! ### Operations -/

namespace Operation

variable (settings : Settings) (m : Machine)

theorem ensuresIf_persist_same {A : (e : Effect) → e.Answer → Prop} (action : MachineAction) :
    (persist m m action).EnsuresIf A Effect.IsPassive fun _ => True := by
  unfold persist
  refine EnsuresIf.bind (ensuresIf_log _ _) fun _ _ => ?_
  unfold patchMachine
  rw [Machine.patch?_eq_none_iff.mpr ⟨⟨rfl, rfl⟩, rfl⟩]
  refine EnsuresIf.bind (ensuresIf_effect trivial fun _ _ => trivial) ?_
  intro now _
  unfold patchStatus
  rw [Machine.statusPatch?_self]
  exact ensuresIf_pure trivial

theorem refuses_reportFailure {α : Type} (action : MachineAction) {e : ControllerError}
    (he : e.requeueDelay? = none) :
    (reportFailure m action e : Program (Except ControllerError α)).Refuses := by
  unfold reportFailure
  refine EnsuresIf.bind (ensuresIf_log _ _) fun _ _ => ?_
  exact EnsuresIf.bind (ensuresIf_effect trivial fun _ _ => trivial)
    fun _ _ => refuses_pure he

theorem refuses_tryUpdate : (tryUpdate settings m).Refuses := by
  unfold tryUpdate
  cases hscope : Scope.ofMachine settings m with
  | error e => exact refuses_pure (Scope.requeueDelay?_of_ofMachine hscope)
  | ok s =>
    obtain ⟨rfl, -⟩ := Scope.eq_of_ofMachine hscope
    refine EnsuresIf.bind (ensuresIf_log _ _) fun _ _ => ?_
    refine (Lifecycle.refuses_update s).bind fun e he => ?_
    exact EnsuresIf.bind (ensuresIf_persist_same s.machine _) fun _ _ => refuses_pure he

theorem refuses_tryDelete : (tryDelete settings m).Refuses := by
  unfold tryDelete
  cases hscope : Scope.ofMachine settings m with
  | error e => exact refuses_pure (Scope.requeueDelay?_of_ofMachine hscope)
  | ok s =>
    exact EnsuresIf.bind (ensuresIf_log _ _) fun _ _ => Lifecycle.refuses_delete s

theorem refuses_update : (update settings m).Refuses := by
  unfold update
  exact (refuses_tryUpdate settings m).bind fun e he => refuses_reportFailure m _ he

theorem refuses_delete : (delete settings m).Refuses := by
  unfold delete
  exact (refuses_tryDelete settings m).bind fun e he => refuses_reportFailure m _ he

theorem refuses_exists? : (exists? settings m).Refuses := by
  unfold exists?
  refine EnsuresIf.bind (ensuresIf_log _ _) fun _ _ => ?_
  exact (Lifecycle.refuses_exists? _ _).bind fun e he => refuses_reportFailure m _ he

end Operation

/-! ### Reconciliation -/

namespace Machine

variable (settings : Settings) (m : Machine)

theorem refuses_apply : (apply settings m).Refuses := by
  unfold apply
  exact (Operation.refuses_exists? settings m).bind fun e he => refuses_pure he

theorem refuses_cleanup : (cleanup settings m).Refuses := by
  unfold cleanup
  exact (Operation.refuses_delete settings m).bind fun e he => refuses_pure he

end Machine

theorem Node.refuses_upkeep (infraNs : String) (n : Node) : (upkeep infraNs n).Refuses := by
  unfold upkeep
  refine EnsuresIf.bind (ensuresIf_log _ _) fun _ _ => refuses_lookUp fun e he => ?_
  dsimp only
  rw [he]
  exact refuses_pure rfl

/-! ### Outages -/

/-- In the states of an outage no virtual machine can be looked up, passive effects leave alone what
is kept, and they do not end the outage. -/
structure Outage {σ κ : Type} (answer : (e : Effect) → σ → e.Answer × σ) (kept : σ → κ)
    (Down : σ → Prop) : Prop where
  fails : ∀ ns name s, Down s → LookUpFails (.infra (.getVirtualMachine ns name))
    (answer (.infra (.getVirtualMachine ns name)) s).1
  keeps : ∀ e s, e.IsPassive → Down s → kept (answer e s).2 = kept s
  lasts : ∀ e s, e.IsPassive → Down s → Down (answer e s).2

/-- The program fails, without a fixed delay, and what is kept is as it was. -/
def FailsUnchanged {σ κ α : Type} (answer : (e : Effect) → σ → e.Answer × σ) (kept : σ → κ) (s : σ)
    (p : Program (Except ControllerError α)) : Prop :=
  FailsPlainly (p.run answer s).1 ∧ kept (p.run answer s).2 = kept s

namespace Outage

variable {σ κ : Type} {answer : (e : Effect) → σ → e.Answer × σ} {kept : σ → κ} {Down : σ → Prop}

theorem failsUnchanged (h : Outage answer kept Down) {s : σ} (hs : Down s) {α : Type}
    {p : Program (Except ControllerError α)} (hp : p.Refuses) : FailsUnchanged answer kept s p := by
  have hanswer (e : Effect) (t : σ) (he : e.IsPassive) (ht : Down t ∧ kept t = kept s) :
      LookUpFails e (answer e t).1 ∧ Down (answer e t).2 ∧ kept (answer e t).2 = kept s := by
    obtain ⟨hdown, hkept⟩ := ht
    refine ⟨?_, h.lasts e t he hdown, (h.keeps e t he hdown).trans hkept⟩
    cases e with
    | infra call =>
      cases call with
      | getVirtualMachine ns name => exact h.fails ns name t hdown
      | _ => trivial
    | _ => trivial
  obtain ⟨hfails, -, hkept⟩ := hp.run hanswer ⟨hs, rfl⟩
  exact ⟨hfails, hkept⟩

end Outage

/-! ### Who can be down -/

/-- Both clusters. -/
def Environment.clusters (env : Environment) : InfraCluster × TenantCluster :=
  (env.infra, env.tenant)

theorem Environment.clusters_passive {e : Effect} (he : e.IsPassive) (env : Environment) :
    (answer .memory e env).2.clusters = env.clusters := by
  cases e with
  | infra call =>
    cases call with
    | getVirtualMachine ns name =>
      unfold answer infraInMemory clusters
      dsimp only
      rw [InfraCluster.answer_getVirtualMachine_snd]
    | _ => exact False.elim he
  | now | publish _ | log _ => rfl
  | _ => exact False.elim he

/-- The clusters in memory, when looking up virtual machines is made to fail. -/
theorem outage_memory : Outage (Environment.answer .memory) Environment.clusters
    fun env => ∃ text, env.infra.failures .getVirtualMachine = some text where
  fails := by
    rintro ns name env ⟨text, htext⟩
    refine ⟨.api text, ?_, rfl⟩
    simp only [Environment.answer, Environment.infraInMemory, InfraCluster.answer,
      InfraCall.operation, htext]
  keeps e env he _ := Environment.clusters_passive he env
  lasts := by
    rintro e env he ⟨text, htext⟩
    have hinfra := congrArg Prod.fst (Environment.clusters_passive he env)
    have hfailures := congrArg (fun c : InfraCluster => c.failures .getVirtualMachine) hinfra
    exact ⟨text, hfailures.trans htext⟩

/-- The clusters in memory, but for looking up virtual machines, which fails with this error. -/
def Environment.answerFailing (error : ClientError) (e : Effect) (env : Environment) :
    e.Answer × Environment :=
  match e with
  | .infra (.getVirtualMachine _ _) => (.error error, env)
  | e => answer .memory e env

/-- Whatever the error is, as long as it does not say that there is no virtual machine. -/
theorem outage_failing {error : ClientError} (h : error.isNotFound = false) :
    Outage (Environment.answerFailing error) Environment.clusters fun _ => True where
  fails _ _ _ _ := ⟨error, rfl, h⟩
  keeps e env he _ := by
    cases e with
    | infra call =>
      cases call with
      | getVirtualMachine ns name => rfl
      | _ => exact False.elim he
    | now | publish _ | log _ => rfl
    | _ => exact False.elim he
  lasts _ _ _ _ := trivial

/-- A virtual machine that is read from this response is neither found nor absent. -/
def Api.Response.IsOutage (r : Api.Response) : Prop :=
  ∀ ns name, LookUpFails (.infra (.getVirtualMachine ns name))
    (InfraCall.ofResponse r (.getVirtualMachine ns name))

/-- What was asked of an API server beside looking things up. -/
def Environment.changeRequests (env : Environment) : List Api.Request :=
  env.api.requests.filter (·.method ≠ .get)

theorem isOutage_noResponse : ApiServer.noResponse.IsOutage := fun _ _ =>
  ⟨.kubernetes (.refused 503 "ServiceUnavailable" "no canned response"), rfl, rfl⟩

theorem Api.method_of_get {objects name : String} {request : Api.Request}
    (h : Api.Request.get objects name = .ok request) : request.method = .get := by
  unfold Request.get objectAddress Request.to at h
  split_ifs at h
  · simp [bind, Except.bind] at h
  · simp only [bind, Except.bind] at h
    split at h
    · obtain rfl := Except.ok.inj h
      rfl
    · simp at h

theorem InfraCall.request_getVirtualMachine (ns name : String) :
    (∃ reason, request (.getVirtualMachine ns name) = .error (.kubernetes (.notSent reason))) ∨
      ∃ r : Api.Request, request (.getVirtualMachine ns name) = .ok r ∧ r.method = .get := by
  unfold request orNotSent
  dsimp only
  cases hget : Api.Request.get (Api.infraPath ns "virtualmachines") name with
  | error reason => exact .inl ⟨reason, rfl⟩
  | ok r => exact .inr ⟨r, rfl, Api.method_of_get hget⟩

/-- Every response that is still to come leaves a look-up without an answer. -/
def ApiServer.IsDown (s : ApiServer) : Prop := ∀ r ∈ s.responses, r.IsOutage

theorem ApiServer.IsDown.ask {s : ApiServer} (h : s.IsDown) (request : Api.Request) :
    (s.ask request).1.IsOutage ∧ (s.ask request).2.IsDown ∧
      (s.ask request).2.requests = s.requests ++ [request.received] := by
  unfold ApiServer.ask
  unfold IsDown at h
  cases hresponses : s.responses with
  | nil => exact ⟨isOutage_noResponse, by simp [IsDown], rfl⟩
  | cons r rest =>
    rw [hresponses] at h
    exact ⟨h r List.mem_cons_self, fun r' hr' => h r' (List.mem_cons_of_mem r hr'), rfl⟩

/-- What looking a virtual machine up over the API comes to during an outage. -/
theorem Environment.lookUp_api {env : Environment} (h : env.api.IsDown) (ns name : String) :
    LookUpFails (.infra (.getVirtualMachine ns name))
        (answer .api (.infra (.getVirtualMachine ns name)) env).1 ∧
      (answer .api (.infra (.getVirtualMachine ns name)) env).2.changeRequests =
        env.changeRequests ∧
      (answer .api (.infra (.getVirtualMachine ns name)) env).2.api.IsDown := by
  have hannouncement : (InfraCall.getVirtualMachine ns name).announcement?.elim env env.logLine =
      env := rfl
  unfold answer infraByApi
  dsimp only
  rw [hannouncement]
  obtain ⟨reason, hrequest⟩ | ⟨r, hrequest, hmethod⟩ :=
    InfraCall.request_getVirtualMachine ns name
  · rw [hrequest]
    exact ⟨⟨_, rfl, rfl⟩, rfl, h⟩
  · obtain ⟨houtage, hdown, hrequests⟩ := h.ask r
    rw [hrequest]
    refine ⟨houtage ns name, ?_, hdown⟩
    unfold changeRequests ask
    dsimp only
    rw [hrequests, List.filter_append]
    simp [Api.Request.received, hmethod]

/-- An API server that is down is asked for nothing but look-ups. -/
theorem outage_api : Outage (Environment.answer .api) Environment.changeRequests
    fun env => env.api.IsDown where
  fails ns name env h := (Environment.lookUp_api h ns name).1
  keeps e env he h := by
    cases e with
    | infra call =>
      cases call with
      | getVirtualMachine ns name => exact (Environment.lookUp_api h ns name).2.1
      | _ => exact False.elim he
    | now | publish _ | log _ => rfl
    | _ => exact False.elim he
  lasts e env he h := by
    cases e with
    | infra call =>
      cases call with
      | getVirtualMachine ns name => exact (Environment.lookUp_api h ns name).2.2
      | _ => exact False.elim he
    | now | publish _ | log _ => exact h
    | _ => exact False.elim he

/-! ### Nothing changes -/

/-- During an outage nothing that is done for a machine or a node changes anything.  Applying a
machine and cleaning up after it, updating and deleting it, asking whether it exists, and the upkeep
of a node all fail with an error that carries no fixed delay. -/
theorem refused_during_outage {σ κ : Type} {answer : (e : Effect) → σ → e.Answer × σ} {kept : σ → κ}
    {Down : σ → Prop} (h : Outage answer kept Down) {s : σ} (hs : Down s) (settings : Settings)
    (m : Machine) (infraNs : String) (n : Node) :
    FailsUnchanged answer kept s (m.apply settings) ∧
    FailsUnchanged answer kept s (m.cleanup settings) ∧
    FailsUnchanged answer kept s (Operation.update settings m) ∧
    FailsUnchanged answer kept s (Operation.delete settings m) ∧
    FailsUnchanged answer kept s (Operation.exists? settings m) ∧
    FailsUnchanged answer kept s (n.upkeep infraNs) :=
  ⟨h.failsUnchanged hs (m.refuses_apply settings),
    h.failsUnchanged hs (m.refuses_cleanup settings),
    h.failsUnchanged hs (Operation.refuses_update settings m),
    h.failsUnchanged hs (Operation.refuses_delete settings m),
    h.failsUnchanged hs (Operation.refuses_exists? settings m),
    h.failsUnchanged hs (n.refuses_upkeep infraNs)⟩

/-- A worker whose virtual machine runs in an infrastructure that does not answer. -/
def workerDown : Environment where
  infra :=
    (InfraCluster.addVirtualMachine {}
      { metadata := { name := some "worker", ns := some "infra" } }).failOn .getVirtualMachine
        "no route to host"
  tenant := TenantCluster.addMachine {} Machine.worker
  now := ⟨0, 0⟩

theorem refused_during_outage_worker :
    (∃ text, workerDown.infra.failures .getVirtualMachine = some text) ∧
    FailsUnchanged (Environment.answer .memory) Environment.clusters workerDown
      (Machine.worker.apply ⟨⟨"infra", "c"⟩, {}⟩) ∧
    FailsUnchanged (Environment.answer .memory) Environment.clusters workerDown
      (Machine.worker.cleanup ⟨⟨"infra", "c"⟩, {}⟩) ∧
    FailsUnchanged (Environment.answer .memory) Environment.clusters workerDown
      (Operation.update ⟨⟨"infra", "c"⟩, {}⟩ Machine.worker) ∧
    FailsUnchanged (Environment.answer .memory) Environment.clusters workerDown
      (Operation.delete ⟨⟨"infra", "c"⟩, {}⟩ Machine.worker) ∧
    FailsUnchanged (Environment.answer .memory) Environment.clusters workerDown
      (Operation.exists? ⟨⟨"infra", "c"⟩, {}⟩ Machine.worker) ∧
    FailsUnchanged (Environment.answer .memory) Environment.clusters workerDown
      (Node.upkeep "infra" { metadata := { name := some "worker" } }) :=
  ⟨⟨_, rfl⟩, refused_during_outage outage_memory ⟨_, rfl⟩ _ _ _ _⟩

end MachineActuator
