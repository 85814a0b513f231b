import Mathlib
import MachineActuator.Proofs.Machine.Accounts
import MachineActuator.Proofs.Machine.Misconfigured
import MachineActuator.Proofs.Machine.Provision
import MachineActuator.Proofs.Machine.StatusPatch

/-! # What a failed operation reports

Creating and updating first deal with the virtual machine and then write back what was taken over.
A failed first part has changed nothing on the machine, so nothing is written back, and its error is
the result.  If the first part succeeds, the virtual machine is there and stays, whatever becomes of
the patches, and the result is the error of the patch that fails
(`Operation.primary_error_wins`). -/

namespace MachineActuator

open Program (Only only_pure only_effect)

/-! ### The machine -/

def Effect.Writes : Effect → Prop
  | .tenant (.getSecret ..) | .tenant (.getConfigMapValue ..) => False
  | .tenant _ => True
  | _ => False

def Effect.PatchesMachine : Effect → Prop
  | .tenant (.patchMachine ..) => True
  | _ => False

def Effect.PatchesStatus : Effect → Prop
  | .tenant (.patchMachineStatus ..) => True
  | _ => False

theorem Step.tenant_after {step : Step} (h : ¬ step.effect.Writes) :
    step.after.tenant = step.before.tenant := by
  obtain ⟨effect, before⟩ := step
  cases effect with
  | tenant call =>
    cases call with
    | getSecret ns name => exact TenantCluster.answer_getSecret_snd
    | getConfigMapValue ns name key =>
      simp only [after, Environment.answer, Environment.tenantInMemory, TenantCluster.answer]
      split
      · rfl
      · rfl
    | _ => exact absurd trivial h
  | changeFinalizers ns name change =>
    simp only [after, Environment.answer, Environment.changeFinalizers]
    split
    · rfl
    · rfl
  | _ => rfl

namespace Lifecycle

variable (s : Scope)

theorem only_create_of {P : Effect → Prop} (hlog : ∀ line, P (.log line))
    (hresolve : ∀ host, P (.resolve host)) (hinfra : ∀ call, P (.infra call)) (bytes : ByteArray) :
    (create Scope.sync s bytes).Only P := by
  unfold create
  cases Payload.addHostname bytes s.name with
  | error cause => exact only_stepFailed hlog _ _ _ _
  | ok payload =>
    refine (only_ensureSecret hlog s (hinfra _)).bind fun result => ?_
    cases result with
    | error e => exact only_pure _
    | ok _ =>
      dsimp only
      cases s.virtualMachine with
      | error cause => exact only_stepFailed hlog _ _ _ _
      | ok vm =>
        refine (only_createVm hlog s (hinfra _)).bind fun result => ?_
        cases result with
        | error e => exact only_pure _
        | ok created => exact (ensures_observe hlog s hresolve created (hinfra _) _).only

theorem only_update_of {P : Effect → Prop} (hlog : ∀ line, P (.log line))
    (hresolve : ∀ host, P (.resolve host)) (hinfra : ∀ call, P (.infra call)) (hnow : P .now) :
    (update Scope.sync s).Only P := by
  unfold update
  cases s.virtualMachine with
  | error cause => exact only_stepFailed hlog _ _ _ _
  | ok desired =>
    refine Only.bind (only_effect (hinfra _)) fun answer => ?_
    cases answer with
    | error cause =>
      dsimp only
      split_ifs
      · exact Only.bind (only_effect hnow) fun _ => (only_log hlog _ _).bind fun _ => only_pure _
      · exact only_stepFailed hlog _ _ _ _
    | ok existing =>
      dsimp only
      unfold replace
      refine Only.bind (only_effect (hinfra _)) fun answer => ?_
      cases answer with
      | error cause => exact only_stepFailed hlog _ _ _ _
      | ok updated =>
        refine (only_log hlog _ _).bind fun _ => ?_
        refine (ensures_observe hlog s hresolve updated (hinfra _) _).only.bind fun result => ?_
        cases result with
        | error e => exact only_pure _
        | ok synced => exact only_pure _

end Lifecycle

namespace Operation

/-- Where patching metadata and specification fails, the status is not patched. -/
def InOrder (steps : List Step) : Prop :=
  ∀ step ∈ steps, step.effect.PatchesMachine → step.refusal? ≠ none →
    ∀ other ∈ steps, ¬ other.effect.PatchesStatus

theorem InOrder.of_sameCalls {steps steps' : List Step} (h : InOrder steps)
    (hcalls : SameCalls steps steps') : InOrder steps' := by
  have hpatch {e : Effect} (he : e.PatchesMachine ∨ e.PatchesStatus) : e.IsCall := by
    cases e with
    | infra _ | tenant _ => trivial
    | _ => exact he.elim id id
  intro step hstep hpatches hrefused other hother hstatus
  have hmem := (hcalls step (hpatch (.inl hpatches))).mpr hstep
  have hmem' := (hcalls other (hpatch (.inr hstatus))).mpr hother
  exact h step hmem hpatches hrefused other hmem' hstatus

section Persist

variable {Drift : Environment → Environment → Prop} {m before after : Machine}
  {action : MachineAction}

theorem tells_patchMachine (hname : after.metadata.displayName = m.metadata.displayName) :
    (patchMachine before after action).Tells Drift (Accounts m action NoMistake) := by
  unfold patchMachine
  cases Machine.patch? before after with
  | none => exact tells_aside ⟨_, rfl⟩
  | some patch =>
    refine tells_tenant (fun cause => Program.ensures_pure ⟨_, rfl, ?_⟩) fun _ =>
      tells_aside ⟨_, rfl⟩
    rw [hname]
    rfl

theorem tells_patchStatus (hname : after.metadata.displayName = m.metadata.displayName)
    (now : Instant) :
    (patchStatus before after action now).Tells Drift (Accounts m action NoMistake) := by
  unfold patchStatus
  cases Machine.statusPatch? before after now with
  | none => exact tells_aside ⟨_, rfl⟩
  | some patch =>
    refine tells_tenant (fun cause => Program.ensures_pure ⟨_, rfl, ?_⟩) fun _ =>
      tells_aside ⟨_, rfl⟩
    rw [hname]
    rfl

theorem tells_persist (hname : after.metadata.displayName = m.metadata.displayName) :
    (persist before after action).Tells Drift (Accounts m action NoMistake) := by
  unfold persist
  refine tells_after (only_effect id) fun _ => ?_
  refine tells_then (tells_patchMachine hname) (fun _ => rfl) fun _ => ?_
  exact tells_after (only_effect id) fun now => tells_patchStatus hname now

theorem tells_inOrder : (persist before after action).Tells Drift fun steps _ => InOrder steps := by
  intro env steps result env' h
  unfold persist at h
  obtain ⟨_, _, logs, rest, rfl, hlogs, hrest⟩ := h.bind_done
  obtain ⟨r, _, early, late, rfl, hearly, hlate⟩ := hrest.bind_done
  have hquiet : (Program.log .debug (after.metadata.displayName ++ ": patching machine")).Only
      fun e => ¬ e.IsCall := only_effect id
  have hpatch : (patchMachine before after action).Only fun e => ¬ e.PatchesStatus :=
    only_patchMachine_of fun _ _ _ => id
  have hlogged := (hlogs.ensures hquiet).1
  have hpatched := (hearly.ensures hpatch).1
  suffices hparts : InOrder (early ++ late) from
    hparts.of_sameCalls (sameCalls_prepend hlogged _)
  cases r with
  | error e =>
    obtain ⟨rfl, -, -⟩ := hlate.of_done
    intro _ _ _ _ other hother
    exact hpatched other (by simpa using hother)
  | ok _ =>
    have hstatus : (Program.now >>= patchStatus before after action).Only
        fun e => ¬ e.PatchesMachine :=
      Only.bind (only_effect id) fun now => only_patchStatus_of (fun _ _ _ => id) now
    have hlater := (hlate.ensures hstatus).1
    -- A patch that was refused would have been the result.
    have hanswered : ∀ step ∈ early, step.effect.PatchesMachine → step.refusal? = none := by
      intro step hstep hpatches
      by_contra hrefused
      obtain ⟨cause, hcause⟩ := Option.ne_none_iff_exists'.mp hrefused
      obtain htolerated | ⟨e, he, -⟩ :=
        (tells_patchMachine (m := after) rfl _ _ _ _ hearly).blamed step hstep cause hcause
      · unfold Tolerated at htolerated
        split at htolerated
        · next heffect =>
          rw [heffect] at hpatches
          exact hpatches
        · exact htolerated
      · cases he
    intro step hstep hpatches hrefused
    obtain hstep | hstep := List.mem_append.mp hstep
    · exact absurd (hanswered step hstep hpatches) hrefused
    · exact absurd hpatches (hlater step hstep)

theorem tells_inOrder_then {γ : Type} {f : Except ControllerError Unit → Program γ}
    (hf : ∀ r, (f r).Only fun e => ¬ e.IsCall) :
    (persist before after action >>= f).Tells Drift fun steps _ => InOrder steps := by
  refine (Program.Tells.bind tells_inOrder fun r => (hf r).tells).mono ?_
  rintro steps result ⟨early, late, r, rfl, hearly, hlate, -⟩
  exact hearly.of_sameCalls (sameCalls_append early hlate)

theorem only_persist_same : (persist m m action).Only fun e => ¬ e.Writes := by
  unfold persist
  refine Only.bind (only_effect id) fun _ => ?_
  unfold patchMachine
  rw [Machine.patch?_eq_none_iff.mpr ⟨⟨rfl, rfl⟩, rfl⟩]
  refine Only.bind (only_effect id) fun now => ?_
  unfold patchStatus
  rw [Machine.statusPatch?_self]
  exact only_pure _

end Persist

/-! ### Operations as a whole -/

/-- The step writes nothing to the tenant cluster and leaves it as it is. -/
def LeavesTenant (step : Step) : Prop :=
  ¬ step.effect.Writes ∧ step.after.tenant = step.before.tenant

/-- The step does not deal with the virtual machine either. -/
def Preliminary (step : Step) : Prop := LeavesTenant step ∧ ∀ call, step.effect ≠ .infra call

/-- An operation that has failed with this error before it came to the virtual machine. -/
def NotBegun {γ : Type} (e : ControllerError) (steps : List Step)
    (result : Except ControllerError γ) : Prop :=
  result = .error e ∧ ∀ step ∈ steps, Preliminary step

/-- The steps include a completed course of the program, with this result. -/
def Includes {β : Type} (Drift : Environment → Environment → Prop) (p : Program β) (b : β)
    (steps : List Step) : Prop :=
  ∃ early part late start mid, steps = early ++ (part ++ late) ∧
    Course Drift start p part (.done b) mid

/-- How an operation ends that has dealt with the virtual machine of a scope.  A failure of this
part is the result, and nothing is written.  If there is none, the virtual machine is there and
stays, and the result accounts for the patches. -/
structure Conclusion {β γ : Type} (s : Scope) (action : MachineAction)
    (Mistake : ControllerError → Prop) (managed late : List Step)
    (outcome : Except ControllerError β) (result : Except ControllerError γ) : Prop where
  accounts : Accounts s.machine action Mistake managed outcome
  unwritten : ∀ e, outcome = .error e →
    result = .error e ∧ ∀ step ∈ managed ++ late, LeavesTenant step
  patches : ∀ a, outcome = .ok a → Accounts s.machine action NoMistake late result ∧ InOrder late
  stays : ∀ a, outcome = .ok a → Stays s (managed ++ late)

/-- A completed operation that has dealt with the virtual machine of a scope by this program. -/
def Concludes {β γ : Type} (Drift : Environment → Environment → Prop) (s : Scope)
    (action : MachineAction) (manage : Program (Except ControllerError β))
    (Mistake : ControllerError → Prop) (steps : List Step)
    (result : Except ControllerError γ) : Prop :=
  ∃ early managed late start mid outcome, steps = early ++ (managed ++ late) ∧
    (∀ step ∈ early, Preliminary step) ∧
    Course Drift start manage managed (.done outcome) mid ∧
    Conclusion s action Mistake managed late outcome result

theorem leavesTenant_of_not_writes {step : Step} (h : ¬ step.effect.Writes) : LeavesTenant step :=
  ⟨h, step.tenant_after h⟩

theorem leavesTenant_of_not_isCall {step : Step} (h : ¬ step.effect.IsCall) :
    LeavesTenant step := by
  refine leavesTenant_of_not_writes fun hwrites => ?_
  unfold Effect.Writes at hwrites
  split at hwrites
  · exact hwrites
  · exact hwrites
  · next heffect =>
    rw [heffect] at h
    exact h trivial
  · exact hwrites

theorem preliminary_of_not_isCall {step : Step} (h : ¬ step.effect.IsCall) : Preliminary step :=
  ⟨leavesTenant_of_not_isCall h, fun _ hcall => h (hcall ▸ trivial)⟩

theorem sparesInfra_of_not_isCall {e : Effect} (h : ¬ e.IsCall) : e.SparesInfra := by
  intro env
  obtain ⟨call, hcall, -⟩ | hafter := (Step.mk e env).infra_after
  · rw [show e = .infra call from hcall] at h
    exact absurd trivial h
  · exact hafter

section Conclude

variable {β γ δ : Type} {Drift : Environment → Environment → Prop} {s : Scope}
  {action : MachineAction} {Mistake : ControllerError → Prop}
  {manage : Program (Except ControllerError β)} {steps late : List Step}
  {result : Except ControllerError γ} {result' : Except ControllerError δ} {e : ControllerError}

theorem notBegun_of_done {env env' : Environment}
    (h : Course Drift env (pure (.error e)) steps (.done result) env') :
    NotBegun e steps result := by
  obtain ⟨rfl, hresult, -⟩ := Course.of_done h
  obtain rfl := Program.done.inj hresult
  exact ⟨rfl, by simp⟩

theorem NotBegun.begin (h : NotBegun e steps result) {early : List Step}
    (hearly : ∀ step ∈ early, Preliminary step) : NotBegun e (early ++ steps) result :=
  ⟨h.1, List.forall_mem_append.mpr ⟨hearly, h.2⟩⟩

theorem NotBegun.report (h : NotBegun e steps result)
    (hlate : ∀ step ∈ late, ¬ step.effect.IsCall) (hresult : FailsAlike result result') :
    NotBegun e (steps ++ late) result' := by
  obtain ⟨he, hsteps⟩ := h
  exact ⟨(hresult e).mp he, List.forall_mem_append.mpr
    ⟨hsteps, fun step hstep => preliminary_of_not_isCall (hlate step hstep)⟩⟩

theorem Includes.append {p : Program β} {b : β} (h : Includes Drift p b steps) (late : List Step) :
    Includes Drift p b (steps ++ late) := by
  obtain ⟨early, part, rest, start, mid, rfl, hpart⟩ := h
  exact ⟨early, part, rest ++ late, start, mid, by simp, hpart⟩

theorem Concludes.report (h : Concludes Drift s action manage Mistake steps result)
    (hlate : ∀ step ∈ late, ¬ step.effect.IsCall) (hresult : FailsAlike result result') :
    Concludes Drift s action manage Mistake (steps ++ late) result' := by
  obtain ⟨early, managed, written, start, mid, outcome, rfl, hearly, hcourse, hconclusion⟩ := h
  refine ⟨early, managed, written ++ late, start, mid, outcome, by simp, hearly, hcourse,
    hconclusion.accounts, fun e he => ?_, fun a ha => ?_, fun a ha => ?_⟩
  · obtain ⟨hfails, hleaves⟩ := hconclusion.unwritten e he
    rw [← List.append_assoc]
    exact ⟨(hresult e).mp hfails, List.forall_mem_append.mpr
      ⟨hleaves, fun step hstep => leavesTenant_of_not_isCall (hlate step hstep)⟩⟩
  · obtain ⟨haccounts, horder⟩ := hconclusion.patches a ha
    have hcalls := sameCalls_append written hlate
    exact ⟨haccounts.of_sameCalls hcalls hresult, horder.of_sameCalls hcalls⟩
  · rw [← List.append_assoc]
    exact (hconclusion.stays a ha).append fun step hstep =>
      sparesInfra_of_not_isCall (hlate step hstep)

theorem Concludes.begin (h : Concludes Drift s action manage Mistake steps result)
    {early : List Step} (hearly : ∀ step ∈ early, Preliminary step) :
    Concludes Drift s action manage Mistake (early ++ steps) result := by
  obtain ⟨first, managed, late, start, mid, outcome, rfl, hfirst, hcourse, hconclusion⟩ := h
  exact ⟨early ++ first, managed, late, start, mid, outcome, by simp,
    List.forall_mem_append.mpr ⟨hearly, hfirst⟩, hcourse, hconclusion⟩

/-- An operation that deals with a virtual machine and then writes back. -/
theorem tells_concludes
    {finish : Except ControllerError β → Program (Except ControllerError γ)}
    {Q : Except ControllerError β → Prop}
    (haccounts : manage.Tells Drift (Accounts s.machine action Mistake))
    (hstays : manage.Tells Drift (StaysIfOk s)) (hwrites : manage.Only fun e => ¬ e.Writes)
    (hresult : manage.Ensures (fun _ => True) Q)
    (herror : ∀ e, (finish (.error e)).Ensures (fun e => ¬ e.Writes) fun r => r = .error e)
    (hspares : ∀ a, (finish (.ok a)).Only Effect.SparesInfra)
    (hpatches : ∀ a, Q (.ok a) → (finish (.ok a)).Tells Drift fun steps r =>
      Accounts s.machine action NoMistake steps r ∧ InOrder steps) :
    (manage >>= finish).Tells Drift (Concludes Drift s action manage Mistake) := by
  intro env steps result env' h
  obtain ⟨outcome, mid, managed, late, rfl, hmanaged, hlate⟩ := h.bind_done
  refine ⟨[], managed, late, env, mid, outcome, rfl, by simp, hmanaged,
    haccounts _ _ _ _ hmanaged, ?_, ?_, ?_⟩
  · rintro e rfl
    obtain ⟨hsteps, rfl⟩ := hlate.ensures (herror e)
    refine ⟨rfl, List.forall_mem_append.mpr ⟨fun step hstep => ?_, fun step hstep => ?_⟩⟩
    · exact leavesTenant_of_not_writes ((hmanaged.ensures hwrites).1 step hstep)
    · exact leavesTenant_of_not_writes (hsteps step hstep)
  · rintro a rfl
    exact hpatches a (hmanaged.ensures hresult).2 _ _ _ _ hlate
  · rintro a rfl
    exact (hstays _ _ _ _ hmanaged a rfl).append (hlate.ensures (hspares a)).1

end Conclude

section Whole

variable {Drift : Environment → Environment → Prop} (settings : Settings) (m : Machine)

/-- A completed attempt to create the virtual machine of a machine.  It does not come to the virtual
machine if there is no scope, or no payload. -/
def CreateConcludes {γ : Type} (Drift : Environment → Environment → Prop) (settings : Settings)
    (m : Machine) (steps : List Step) (result : Except ControllerError γ) : Prop :=
  match Scope.ofMachine settings m with
  | .error e => NotBegun e steps result
  | .ok s =>
    (∃ e, Includes Drift (payload s) (.error e) steps ∧ NotBegun e steps result) ∨
      ∃ bytes, Includes Drift (payload s) (.ok bytes) steps ∧
        Concludes Drift s .create (Lifecycle.create Scope.sync s bytes)
          (Lifecycle.Uncreatable s bytes) steps result

/-- A completed update of the virtual machine of a machine.  It does not come to the virtual machine
if there is no scope. -/
def UpdateConcludes {γ : Type} (Drift : Environment → Environment → Prop) (settings : Settings)
    (m : Machine) (steps : List Step) (result : Except ControllerError γ) : Prop :=
  match Scope.ofMachine settings m with
  | .error e => NotBegun e steps result
  | .ok s =>
    Concludes Drift s .update (Lifecycle.update Scope.sync s) (Lifecycle.Underivable s .update)
      steps result

theorem persist_then_same {γ : Type} {e : ControllerError} {action : MachineAction} :
    (persist m m action >>= fun _ => pure (.error e) :
      Program (Except ControllerError γ)).Ensures (fun e => ¬ e.Writes) fun r => r = .error e :=
  Only.bind only_persist_same fun _ => Program.ensures_pure rfl

theorem tells_tryCreate :
    (tryCreate settings m).Tells Drift (CreateConcludes Drift settings m) := by
  unfold tryCreate CreateConcludes
  cases hscope : Scope.ofMachine settings m with
  | error e =>
    intro env steps result env' h
    exact notBegun_of_done h
  | ok s =>
    obtain ⟨rfl, -⟩ := Scope.eq_of_ofMachine hscope
    intro env steps result env' h
    obtain ⟨_, _, logs, _, rfl, hlogs, hrest⟩ := h.bind_done
    obtain ⟨r, _, early, late, rfl, hpayload, hrest⟩ := hrest.bind_done
    have hquiet : (Program.log .info (s.name ++ ": actuator creating machine")).Only
        fun e => ¬ e.IsCall := only_effect id
    have hget : (payload s).Only fun e => ¬ e.Writes ∧ ∀ call, e ≠ .infra call :=
      only_payload s ⟨id, fun _ hcall => by cases hcall⟩
    have hearly : ∀ step ∈ logs ++ early, Preliminary step := by
      refine List.forall_mem_append.mpr ⟨fun step hstep => ?_, fun step hstep => ?_⟩
      · exact preliminary_of_not_isCall ((hlogs.ensures hquiet).1 step hstep)
      · obtain ⟨hwrites, hinfra⟩ := (hpayload.ensures hget).1 step hstep
        exact ⟨leavesTenant_of_not_writes hwrites, hinfra⟩
    have hincludes : Includes Drift (payload s) r (logs ++ (early ++ late)) :=
      ⟨logs, early, late, _, _, rfl, hpayload⟩
    rw [← List.append_assoc] at hincludes ⊢
    cases r with
    | error e => exact .inl ⟨e, hincludes, (notBegun_of_done hrest).begin hearly⟩
    | ok bytes =>
      refine .inr ⟨bytes, hincludes, Concludes.begin ?_ hearly⟩
      refine tells_concludes (Lifecycle.tells_create s bytes) (Lifecycle.tells_stays_create bytes)
        (Lifecycle.only_create_of s (fun _ => id) (fun _ => id) (fun _ => id) bytes)
        ((Lifecycle.ensures_create s bytes).mono (fun _ _ => trivial) fun _ h => h)
        (fun e => persist_then_same s.machine) (fun synced => sparesInfra_persist)
        (fun synced htook => ?_) _ _ _ _ hrest
      obtain ⟨vm, vmi, providerId, ips, rfl⟩ := htook synced rfl
      refine Program.Tells.and (tells_persist ?_) tells_inOrder
      rfl

theorem tells_tryUpdate :
    (tryUpdate settings m).Tells Drift (UpdateConcludes Drift settings m) := by
  unfold tryUpdate UpdateConcludes
  cases hscope : Scope.ofMachine settings m with
  | error e =>
    intro env steps result env' h
    exact notBegun_of_done h
  | ok s =>
    obtain ⟨rfl, -⟩ := Scope.eq_of_ofMachine hscope
    intro env steps result env' h
    obtain ⟨_, _, logs, _, rfl, hlogs, hrest⟩ := h.bind_done
    have hquiet : (Program.log .info (s.name ++ ": actuator updating machine")).Only
        fun e => ¬ e.IsCall := only_effect id
    have hearly : ∀ step ∈ logs, Preliminary step := fun step hstep =>
      preliminary_of_not_isCall ((hlogs.ensures hquiet).1 step hstep)
    refine Concludes.begin ?_ hearly
    refine tells_concludes (Lifecycle.tells_update s) Lifecycle.tells_stays_update
      (Lifecycle.only_update_of s (fun _ => id) (fun _ => id) (fun _ => id) id)
      ((Lifecycle.ensures_update s).mono (fun _ _ => trivial) fun _ h => h)
      (fun e => persist_then_same s.machine) (fun updated => ?_) (fun updated htook => ?_)
      _ _ _ _ hrest
    · refine sparesInfra_persist.bind fun result => ?_
      cases result with
      | error e => exact only_pure _
      | ok _ => exact only_pure _
    · obtain ⟨changed, synced⟩ := updated
      obtain ⟨vm, vmi, providerId, ips, rfl⟩ := htook changed synced rfl
      refine Program.Tells.and (tells_then (tells_persist ?_) (fun _ => rfl) fun _ =>
        tells_aside ⟨_, rfl⟩) (tells_inOrder_then fun result => ?_)
      · rfl
      · cases result with
        | error e => exact only_pure _
        | ok _ => exact only_pure _

section Report

variable {settings m} {γ δ : Type} {steps late : List Step} {result : Except ControllerError γ}
  {result' : Except ControllerError δ}

theorem CreateConcludes.report (h : CreateConcludes Drift settings m steps result)
    (hlate : ∀ step ∈ late, ¬ step.effect.IsCall) (hresult : FailsAlike result result') :
    CreateConcludes Drift settings m (steps ++ late) result' := by
  unfold CreateConcludes at h ⊢
  cases hscope : Scope.ofMachine settings m with
  | error e =>
    rw [hscope] at h
    exact h.report hlate hresult
  | ok s =>
    rw [hscope] at h
    obtain ⟨e, hincludes, hnot⟩ | ⟨bytes, hincludes, hconcludes⟩ := h
    · exact .inl ⟨e, hincludes.append late, hnot.report hlate hresult⟩
    · exact .inr ⟨bytes, hincludes.append late, hconcludes.report hlate hresult⟩

theorem UpdateConcludes.report (h : UpdateConcludes Drift settings m steps result)
    (hlate : ∀ step ∈ late, ¬ step.effect.IsCall) (hresult : FailsAlike result result') :
    UpdateConcludes Drift settings m (steps ++ late) result' := by
  unfold UpdateConcludes at h ⊢
  cases hscope : Scope.ofMachine settings m with
  | error e =>
    rw [hscope] at h
    exact h.report hlate hresult
  | ok s =>
    rw [hscope] at h
    exact h.report hlate hresult

end Report

/-- What is done last does not deal with a cluster, and passes the failure on. -/
abbrev Relays {β : Type} (r : Except ControllerError β)
    (p : Program (Except ControllerError Unit)) : Prop :=
  p.Ensures (fun e => ¬ e.IsCall) (FailsAlike r)

theorem relays_success {β : Type} (a : β) (action : MachineAction) (done : String) :
    Relays (.ok a) (do
      reportSuccess m action done
      pure (.ok ())) :=
  ⟨id, fun _ e => by simp⟩

theorem relays_failure {β : Type} (e : ControllerError) (action : MachineAction) :
    Relays (.error e : Except ControllerError β) (reportFailure m action e) :=
  ⟨id, fun _ => ⟨id, fun _ e' => by simp⟩⟩

/-- However the surroundings drift and whichever calls fail while a machine is created or updated: a
failure in dealing with the virtual machine is the result, and nothing is written; and if there is
none, a patch that fails is the result, the status is not patched after a failed patch of the
machine, and the virtual machine is there and stays. -/
theorem primary_error_wins {env env' : Environment} {steps : List Step}
    {result : Except ControllerError Unit} :
    (Course Drift env (create settings m) steps (.done result) env' →
      CreateConcludes Drift settings m steps result) ∧
    (Course Drift env (update settings m) steps (.done result) env' →
      UpdateConcludes Drift settings m steps result) := by
  constructor
  · intro h
    unfold create at h
    obtain ⟨r, mid, early, late, rfl, hearly, hlate⟩ := h.bind_done
    have hrelays : (∀ step ∈ late, ¬ step.effect.IsCall) ∧ FailsAlike r result := by
      cases r with
      | ok a => exact hlate.ensures (relays_success m a .create "Created")
      | error e => exact hlate.ensures (relays_failure m e .create)
    obtain ⟨hquiet, hsame⟩ := hrelays
    exact (tells_tryCreate settings m _ _ _ _ hearly).report hquiet hsame
  · intro h
    unfold update at h
    obtain ⟨r, mid, early, late, rfl, hearly, hlate⟩ := h.bind_done
    have hrelays : (∀ step ∈ late, ¬ step.effect.IsCall) ∧ FailsAlike r result := by
      cases r with
      | ok changed =>
        cases changed with
        | true => exact hlate.ensures (relays_success m true .update "Updated")
        | false =>
          obtain ⟨rfl, hresult, -⟩ := hlate.of_done
          obtain rfl := Program.done.inj hresult
          exact ⟨by simp, fun e => by simp⟩
      | error e => exact hlate.ensures (relays_failure m e .update)
    obtain ⟨hquiet, hsame⟩ := hrelays
    exact (tells_tryUpdate settings m _ _ _ _ hearly).report hquiet hsame

end Whole

/-- A stored worker with its payload; virtual machines cannot be created, nor machines patched. -/
def failing : Environment where
  infra := InfraCluster.failOn {} .createVirtualMachine "no room"
  tenant :=
    ((TenantCluster.addMachine {} Machine.worker).addSecret "ns" "payload"
      (.singleton userDataKey "\x7b\x7d".toUTF8)).failOn .patchMachine "no access"
  now := ⟨0, 0⟩

/-- The same worker where only machines cannot be patched. -/
def unpatchable : Environment := { failing with infra := {} }

def smallSettings : Settings := ⟨⟨"infra", "c"⟩, {}⟩

/-- The virtual machine of the worker was refused. -/
def noRoom : Except ControllerError Unit :=
  .error (.step "worker" .create "failed to create Virtual Machine in infraCluster"
    (.client (.api "no room")))

/-- The patch of the worker was refused. -/
def noAccess : Except ControllerError Unit :=
  .error (.step "worker" .create "failed to patch machine" (.client (.api "no access")))

/-- There is no virtual machine of the worker to be updated. -/
def noMachine : Except ControllerError Unit :=
  .error (.requeueAfter "worker" Lifecycle.shortDelay)

/-- Where both fail the error of the virtual machine is the result, and otherwise that of the patch.
An update finds no virtual machine, and nothing is patched either. -/
theorem primary_error_wins_worker :
    (∃ steps env', Course Lifecycle.Alone failing (create smallSettings .worker) steps
      (.done noRoom) env' ∧ CreateConcludes Lifecycle.Alone smallSettings .worker steps noRoom) ∧
    (∃ steps env', Course Lifecycle.Alone unpatchable (create smallSettings .worker) steps
      (.done noAccess) env' ∧
        CreateConcludes Lifecycle.Alone smallSettings .worker steps noAccess) ∧
    (∃ steps env', Course Lifecycle.Alone failing (update smallSettings .worker) steps
      (.done noMachine) env' ∧
        UpdateConcludes Lifecycle.Alone smallSettings .worker steps noMachine) := by
  refine ⟨?_, ?_, ?_⟩
  · obtain ⟨steps, hcourse⟩ :=
      Course.of_run Lifecycle.Alone (create smallSettings .worker) failing
    exact ⟨steps, _, hcourse, (primary_error_wins smallSettings .worker).1 hcourse⟩
  · obtain ⟨steps, hcourse⟩ :=
      Course.of_run Lifecycle.Alone (create smallSettings .worker) unpatchable
    exact ⟨steps, _, hcourse, (primary_error_wins smallSettings .worker).1 hcourse⟩
  · obtain ⟨steps, hcourse⟩ :=
      Course.of_run Lifecycle.Alone (update smallSettings .worker) failing
    exact ⟨steps, _, hcourse, (primary_error_wins smallSettings .worker).2 hcourse⟩

end Operation

end MachineActuator
