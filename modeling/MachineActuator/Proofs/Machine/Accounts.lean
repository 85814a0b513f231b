import Mathlib
import MachineActuator.Proofs.Course

/-! # Failures that are accounted for

An operation on a virtual machine is a chain of calls, and the first one that fails ends it, but for
a secret that is there already.  So the error that such a chain ends with reports the one call that
failed, or else a mistake that was found without a call (`Accounts`); the rules follow the way in
which programs are put together. -/

namespace MachineActuator

open Program (only_effect)

/-! ### Failed calls -/

/-- The error that a call is answered with. -/
def Effect.refusal? : (e : Effect) → e.Answer → Option ClientError
  | .infra _, answer =>
    match answer with
    | .error cause => some cause
    | .ok _ => none
  | .tenant _, answer =>
    match answer with
    | .error cause => some cause
    | .ok _ => none
  | _, _ => none

/-- The error that the call of a step was answered with. -/
def Step.refusal? (step : Step) : Option ClientError := step.effect.refusal? step.answer

def Effect.IsCall : Effect → Prop
  | .infra _ | .tenant _ => True
  | _ => False

/-- The failure does no harm: the secret is there already. -/
def Tolerated : Effect → ClientError → Prop
  | .infra (.createSecret ..), cause => cause.isAlreadyExists = true
  | _, _ => False

/-- The error that reports the failure of a call in an operation on a machine. -/
def Reports (m : Machine) (action : MachineAction) :
    Effect → ClientError → ControllerError → Prop
  | .infra call, cause, e =>
    let failed (what : String) := ControllerError.step (m.metadata.name.getD "") action what
      (.client cause)
    match call with
    | .createSecret .. => e = failed "failed to create ignition secret in infraCluster"
    | .createVirtualMachine .. => e = failed "failed to create Virtual Machine in infraCluster"
    | .updateVirtualMachine .. => e = failed "failed to update Virtual Machine in infraCluster"
    | .getInstance .. => e = failed "failed to get vmi of the Machine"
    | .getVirtualMachine .. =>
      if cause.isNotFound then
        e = .requeueAfter (m.metadata.name.getD "") Lifecycle.shortDelay ∨
          e = .requeueAfter (m.metadata.name.getD "") Lifecycle.longDelay
      else e = failed "failed to get Virtual Machine from infraCluster"
    | .deleteVirtualMachine .. => False
  | .tenant call, cause, e =>
    let failed (what : String) := ControllerError.step m.metadata.displayName action what
      (.client cause)
    match call with
    | .patchMachine .. => e = failed "failed to patch machine"
    | .patchMachineStatus .. => e = failed "failed to patch machine status"
    | _ => False
  | _, _, _ => False

/-- A failed call, if there is one that does harm, is what the error reports.  Every other error is
one of the mistakes, and with a mistake there is an error. -/
structure Accounts {α : Type} (m : Machine) (action : MachineAction)
    (Mistake : ControllerError → Prop) (steps : List Step)
    (result : Except ControllerError α) : Prop where
  blamed : ∀ step ∈ steps, ∀ cause, step.refusal? = some cause →
    Tolerated step.effect cause ∨ ∃ e, result = .error e ∧ Reports m action step.effect cause e
  accounted : ∀ e, result = .error e → Mistake e ∨
    ∃ step ∈ steps, ∃ cause, step.refusal? = some cause ∧ ¬ Tolerated step.effect cause ∧
      Reports m action step.effect cause e
  mistaken : ∀ e, Mistake e → ∃ e, result = .error e

/-- No error is a mistake. -/
abbrev NoMistake (_ : ControllerError) : Prop := False

theorem Step.refusal?_of_not_isCall {step : Step} (h : ¬ step.effect.IsCall) :
    step.refusal? = none := by
  obtain ⟨effect, before⟩ := step
  cases effect with
  | infra _ | tenant _ => exact absurd trivial h
  | _ => rfl

theorem Step.isCall_of_refusal? {step : Step} {cause : ClientError}
    (h : step.refusal? = some cause) : step.effect.IsCall := by
  by_contra hnot
  rw [Step.refusal?_of_not_isCall hnot] at h
  cases h

/-- The same calls are among the steps. -/
def SameCalls (steps steps' : List Step) : Prop :=
  ∀ step : Step, step.effect.IsCall → (step ∈ steps ↔ step ∈ steps')

/-- Both results are the same error, or neither is one. -/
def FailsAlike {α β : Type} (r : Except ControllerError α) (r' : Except ControllerError β) : Prop :=
  ∀ e, r = .error e ↔ r' = .error e

section SameCalls

variable {early late : List Step}

theorem sameCalls_prepend (h : ∀ step ∈ early, ¬ step.effect.IsCall) (steps : List Step) :
    SameCalls steps (early ++ steps) := by
  intro step hcall
  have hnot : step ∉ early := fun hstep => h step hstep hcall
  rw [List.mem_append, or_iff_right hnot]

theorem sameCalls_append (steps : List Step) (h : ∀ step ∈ late, ¬ step.effect.IsCall) :
    SameCalls steps (steps ++ late) := by
  intro step hcall
  have hnot : step ∉ late := fun hstep => h step hstep hcall
  rw [List.mem_append, or_iff_left hnot]

end SameCalls

section Rules

variable {α β γ : Type} {Drift : Environment → Environment → Prop} {m : Machine}
  {action : MachineAction} {Mistake : ControllerError → Prop}

theorem Accounts.of_aside {steps : List Step} {result : Except ControllerError α}
    (hsteps : ∀ step ∈ steps, ¬ step.effect.IsCall) (herror : ∀ e, result = .error e → Mistake e)
    (hmistake : ∀ e, Mistake e → ∃ e, result = .error e) :
    Accounts m action Mistake steps result where
  blamed step hstep cause hcause := by
    rw [Step.refusal?_of_not_isCall (hsteps step hstep)] at hcause
    cases hcause
  accounted e he := .inl (herror e he)
  mistaken := hmistake

theorem Accounts.of_sameCalls {steps steps' : List Step} {result : Except ControllerError α}
    {result' : Except ControllerError β} (h : Accounts m action Mistake steps result)
    (hcalls : SameCalls steps steps') (hresult : FailsAlike result result') :
    Accounts m action Mistake steps' result' where
  blamed step hstep cause hcause := by
    have hmem := (hcalls step (Step.isCall_of_refusal? hcause)).mpr hstep
    obtain htolerated | ⟨e, he, hreports⟩ := h.blamed step hmem cause hcause
    · exact .inl htolerated
    · exact .inr ⟨e, (hresult e).mp he, hreports⟩
  accounted e he := by
    obtain hmistake | ⟨step, hstep, cause, hcause, hblame⟩ := h.accounted e ((hresult e).mpr he)
    · exact .inl hmistake
    · have hmem := (hcalls step (Step.isCall_of_refusal? hcause)).mp hstep
      exact .inr ⟨step, hmem, cause, hcause, hblame⟩
  mistaken e he := by
    obtain ⟨e', he'⟩ := h.mistaken e he
    exact ⟨e', (hresult e').mp he'⟩

/-- One part after another: the second one only begins when the first one has succeeded. -/
theorem Accounts.append {early late : List Step} {a : α} {result : Except ControllerError β}
    (hearly : Accounts m action NoMistake early (.ok a : Except ControllerError α))
    (hlate : Accounts m action Mistake late result) :
    Accounts m action Mistake (early ++ late) result where
  blamed step hstep cause hcause := by
    obtain hstep | hstep := List.mem_append.mp hstep
    · obtain htolerated | ⟨e, he, -⟩ := hearly.blamed step hstep cause hcause
      · exact .inl htolerated
      · cases he
    · exact hlate.blamed step hstep cause hcause
  accounted e he := by
    obtain hmistake | ⟨step, hstep, hblame⟩ := hlate.accounted e he
    · exact .inl hmistake
    · exact .inr ⟨step, List.mem_append_right _ hstep, hblame⟩
  mistaken := hlate.mistaken

theorem Accounts.of_noMistake {steps : List Step} {result : Except ControllerError α}
    (h : Accounts m action NoMistake steps result) (hnone : ∀ e, ¬ Mistake e) :
    Accounts m action Mistake steps result where
  blamed := h.blamed
  accounted e he := (h.accounted e he).imp_left False.elim
  mistaken e he := absurd he (hnone e)

/-- A failure that is accounted for is so with any result that fails alike. -/
theorem Accounts.relay {steps : List Step} {e : ControllerError}
    (h : Accounts m action NoMistake steps (.error e : Except ControllerError α)) :
    Accounts m action Mistake steps (.error e : Except ControllerError β) where
  blamed step hstep cause hcause := by
    obtain htolerated | ⟨e', he, hreports⟩ := h.blamed step hstep cause hcause
    · exact .inl htolerated
    · obtain rfl := Except.error.inj he
      exact .inr ⟨e, rfl, hreports⟩
  accounted e' he := by
    obtain rfl := Except.error.inj he
    exact .inr ((h.accounted e rfl).resolve_left id)
  mistaken _ _ := ⟨e, rfl⟩

/-! Programs whose courses account for their errors. -/

theorem tells_aside {p : Program (Except ControllerError α)}
    (hp : p.Ensures (fun e => ¬ e.IsCall) fun r => ∃ a, r = .ok a) :
    p.Tells Drift (Accounts m action NoMistake) := by
  refine hp.tells.mono ?_
  rintro steps result ⟨hsteps, a, rfl⟩
  exact .of_aside hsteps (fun _ h => by cases h) fun _ h => h.elim

theorem tells_mistake {p : Program (Except ControllerError α)}
    (hp : p.Ensures (fun e => ¬ e.IsCall) fun r => ∃ e, r = .error e ∧ Mistake e) :
    p.Tells Drift (Accounts m action Mistake) := by
  refine hp.tells.mono ?_
  rintro steps result ⟨hsteps, e, rfl, hmistake⟩
  refine .of_aside hsteps (fun e' he => ?_) fun _ _ => ⟨e, rfl⟩
  obtain rfl := Except.error.inj he
  exact hmistake

theorem tells_after {p : Program α} {f : α → Program (Except ControllerError β)}
    (hp : p.Only fun e => ¬ e.IsCall) (hf : ∀ a, (f a).Tells Drift (Accounts m action Mistake)) :
    (p >>= f).Tells Drift (Accounts m action Mistake) := by
  refine (Program.Tells.bind hp.tells hf).mono ?_
  rintro steps result ⟨early, late, -, rfl, ⟨hearly, -⟩, hlate⟩
  exact hlate.of_sameCalls (sameCalls_prepend hearly late) fun _ => Iff.rfl

/-- A call and what follows it: where the call fails, either its failure does no harm or the result
reports it, and there are no other calls. -/
theorem tells_call {e : Effect} {f : e.Answer → Program (Except ControllerError α)}
    (hrefused : ∀ answer cause, e.refusal? answer = some cause →
      (f answer).Ensures (fun e => ¬ e.IsCall) fun r =>
        (Tolerated e cause ∧ ∃ a, r = .ok a) ∨
          (¬ Tolerated e cause ∧ ∃ error, r = .error error ∧ Reports m action e cause error))
    (hanswered : ∀ answer, e.refusal? answer = none →
      (f answer).Tells Drift (Accounts m action NoMistake)) :
    (Program.effect e >>= f).Tells Drift (Accounts m action NoMistake) := by
  intro env steps result env' h
  obtain ⟨-, hq, -⟩ | ⟨before, rest, -, rfl, hrest⟩ := h.of_effect_bind
  · simp [Program.effect] at hq
  cases hrefusal : e.refusal? (Step.mk e before).answer with
  | none =>
    have hlate := hanswered _ hrefusal _ _ _ _ hrest
    refine ⟨List.forall_mem_cons.mpr ⟨fun cause hcause => ?_, hlate.blamed⟩, fun error herror => ?_,
      fun _ h => h.elim⟩
    · rw [show (Step.mk e before).refusal? = none from hrefusal] at hcause
      cases hcause
    · obtain hmistake | ⟨step, hstep, hblame⟩ := hlate.accounted error herror
      · exact hmistake.elim
      · exact .inr ⟨step, List.mem_cons_of_mem _ hstep, hblame⟩
  | some cause =>
    obtain ⟨hsteps, hresult⟩ := hrest.ensures (hrefused _ cause hrefusal)
    have hlater (step : Step) (hstep : step ∈ rest) : step.refusal? = none :=
      Step.refusal?_of_not_isCall (hsteps step hstep)
    refine ⟨List.forall_mem_cons.mpr ⟨fun cause' hcause => ?_, fun step hstep cause' hcause => ?_⟩,
      fun error herror => ?_, fun _ h => h.elim⟩
    · obtain rfl := Option.some.inj (hrefusal.symm.trans hcause)
      exact hresult.imp (fun h => h.1) fun h => h.2
    · rw [hlater step hstep] at hcause
      cases hcause
    · obtain ⟨-, a, rfl⟩ | ⟨hharm, error', rfl, hreports⟩ := hresult
      · cases herror
      · obtain rfl := Except.error.inj herror
        exact .inr ⟨_, List.mem_cons_self, cause, hrefusal, hharm, hreports⟩

theorem tells_infra {call : InfraCall}
    {f : Except ClientError call.Result → Program (Except ControllerError α)}
    (hrefused : ∀ cause, (f (.error cause)).Ensures (fun e => ¬ e.IsCall) fun r =>
      (Tolerated (.infra call) cause ∧ ∃ a, r = .ok a) ∨ (¬ Tolerated (.infra call) cause ∧
        ∃ error, r = .error error ∧ Reports m action (.infra call) cause error))
    (hanswered : ∀ a, (f (.ok a)).Tells Drift (Accounts m action NoMistake)) :
    (Program.infra call >>= f).Tells Drift (Accounts m action NoMistake) := by
  refine tells_call (fun answer cause h => ?_) fun answer h => ?_
  · cases answer with
    | ok a => cases h
    | error cause =>
      obtain rfl := Option.some.inj h
      exact hrefused cause
  · cases answer with
    | ok a => exact hanswered a
    | error cause => cases h

theorem tells_tenant {call : TenantCall}
    {f : Except ClientError call.Result → Program (Except ControllerError α)}
    (hrefused : ∀ cause, (f (.error cause)).Ensures (fun e => ¬ e.IsCall) fun r =>
      ∃ error, r = .error error ∧ Reports m action (.tenant call) cause error)
    (hanswered : ∀ a, (f (.ok a)).Tells Drift (Accounts m action NoMistake)) :
    (Program.tenant call >>= f).Tells Drift (Accounts m action NoMistake) := by
  refine tells_call (fun answer cause h => ?_) fun answer h => ?_
  · cases answer with
    | ok a => cases h
    | error cause =>
      obtain rfl := Option.some.inj h
      exact (hrefused cause).mono (fun _ he => he) fun _ hr => .inr ⟨id, hr⟩
  · cases answer with
    | ok a => exact hanswered a
    | error cause => cases h

/-- One part after another, where the second one passes the error of the first one on. -/
theorem tells_then {p : Program (Except ControllerError α)}
    {f : Except ControllerError α → Program (Except ControllerError β)}
    (hp : p.Tells Drift (Accounts m action NoMistake))
    (herror : ∀ e, f (.error e) = pure (.error e))
    (hok : ∀ a, (f (.ok a)).Tells Drift (Accounts m action Mistake)) :
    (p >>= f).Tells Drift (Accounts m action Mistake) := by
  intro env steps result env' h
  obtain ⟨r, mid, early, late, rfl, hearly, hlate⟩ := h.bind_done
  cases r with
  | error e =>
    rw [herror] at hlate
    obtain ⟨rfl, hresult, -⟩ := hlate.of_done
    obtain rfl := Program.done.inj hresult
    rw [List.append_nil]
    exact (hp _ _ _ _ hearly).relay
  | ok a => exact (hp _ _ _ _ hearly).append (hok a _ _ _ _ hlate)

end Rules

/-! ### The virtual machine -/

namespace Lifecycle

variable {Drift : Environment → Environment → Prop} (s : Scope)

/-- The virtual machine of a scope cannot be derived. -/
def Underivable (s : Scope) (action : MachineAction) (e : ControllerError) : Prop :=
  ∃ cause, s.virtualMachine = .error cause ∧
    e = .step s.name action "failed to build Virtual Machine struct" cause

theorem not_underivable {vm : VirtualMachine} (hvm : s.virtualMachine = .ok vm)
    {action : MachineAction} (e : ControllerError) : ¬ Underivable s action e := by
  rintro ⟨cause, hcause, -⟩
  rw [hvm] at hcause
  cases hcause

/-- The payload cannot be used, or the virtual machine cannot be derived. -/
def Uncreatable (s : Scope) (bytes : ByteArray) (e : ControllerError) : Prop :=
  match Payload.addHostname bytes s.name with
  | .error cause => e = .step s.name .create "failed to add hostname to ignition payload" cause
  | .ok _ => Underivable s .create e

theorem tells_stepFailed {α : Type} {Mistake : ControllerError → Prop} {machine what : String}
    {action : MachineAction} {cause : ControllerError}
    (h : Mistake (.step machine action what cause)) :
    (stepFailed machine action what cause : Program (Except ControllerError α)).Tells Drift
      (Accounts s.machine action Mistake) :=
  tells_mistake ⟨id, fun _ => ⟨_, rfl, h⟩⟩

theorem reports_stepFailed {α : Type} {e : Effect} {cause : ClientError} {what : String}
    {action : MachineAction} (hharm : ¬ Tolerated e cause)
    (h : Reports s.machine action e cause (.step s.name action what (.client cause))) :
    (stepFailed s.name action what (.client cause) :
      Program (Except ControllerError α)).Ensures (fun e => ¬ e.IsCall) fun r =>
        (Tolerated e cause ∧ ∃ a, r = .ok a) ∨ (¬ Tolerated e cause ∧
          ∃ error, r = .error error ∧ Reports s.machine action e cause error) :=
  ⟨id, fun _ => .inr ⟨hharm, _, rfl, h⟩⟩

theorem ensures_sync_ok (vm : VirtualMachine) (vmi : VirtualMachineInstance)
    (providerId : String) :
    (s.sync vm vmi providerId).Ensures (fun e => ¬ e.IsCall) fun r => ∃ synced, r = .ok synced := by
  unfold Scope.sync Scope.logProviderId
  split_ifs
  · exact ⟨id, fun _ => ⟨id, fun _ => ⟨id, fun _ => ⟨id, fun _ => ⟨_, rfl⟩⟩⟩⟩⟩
  · exact ⟨id, fun _ => ⟨id, fun _ => ⟨id, fun _ => ⟨id, fun _ => ⟨_, rfl⟩⟩⟩⟩⟩

theorem tells_observe (vm : VirtualMachine) (action : MachineAction) :
    (observe Scope.sync s vm action).Tells Drift (Accounts s.machine action NoMistake) := by
  unfold observe
  refine tells_infra (fun cause => reports_stepFailed s id rfl) fun vmi => ?_
  refine tells_aside ((ensures_sync_ok s vm vmi _).bind ?_)
  rintro result ⟨synced, rfl⟩
  exact ⟨synced, rfl⟩

theorem tells_ensureSecret (payload : ByteArray) :
    (ensureSecret s payload).Tells Drift (Accounts s.machine .create NoMistake) := by
  unfold ensureSecret
  refine tells_infra (fun cause => ?_) fun secret => tells_aside ⟨_, rfl⟩
  dsimp only
  split_ifs with hexists
  · exact ⟨id, fun _ => .inl ⟨hexists, _, rfl⟩⟩
  · exact reports_stepFailed s hexists rfl

theorem tells_createVm (vm : VirtualMachine) :
    (createVm s vm).Tells Drift (Accounts s.machine .create NoMistake) := by
  unfold createVm
  exact tells_infra (fun cause => reports_stepFailed s id rfl) fun created =>
    tells_aside ⟨id, fun _ => ⟨_, rfl⟩⟩

theorem tells_create (bytes : ByteArray) :
    (create Scope.sync s bytes).Tells Drift
      (Accounts s.machine .create (Uncreatable s bytes)) := by
  unfold create Uncreatable
  cases Payload.addHostname bytes s.name with
  | error cause => exact tells_stepFailed s rfl
  | ok payload =>
    refine tells_then (tells_ensureSecret s payload) (fun _ => rfl) fun _ => ?_
    dsimp only
    cases hvm : s.virtualMachine with
    | error cause => exact tells_stepFailed s ⟨cause, hvm, rfl⟩
    | ok vm =>
      refine Program.Tells.mono (tells_then (tells_createVm s vm) (fun _ => rfl) fun created => ?_)
        fun _ _ h => h.of_noMistake (not_underivable s hvm)
      exact tells_observe s created .create

theorem tells_replace (desired existing : VirtualMachine) :
    (replace Scope.sync s desired existing).Tells Drift
      (Accounts s.machine .update NoMistake) := by
  unfold replace
  refine tells_infra (fun cause => reports_stepFailed s id rfl) fun updated => ?_
  refine tells_after (only_effect id) fun _ => ?_
  exact tells_then (tells_observe s updated .update) (fun _ => rfl) fun synced =>
    tells_aside ⟨_, rfl⟩

theorem tells_update :
    (update Scope.sync s).Tells Drift (Accounts s.machine .update (Underivable s .update)) := by
  unfold update
  cases hvm : s.virtualMachine with
  | error cause => exact tells_stepFailed s ⟨cause, hvm, rfl⟩
  | ok desired =>
    refine Program.Tells.mono (tells_infra (fun cause => ?_) fun existing =>
      tells_replace s desired existing) fun _ _ h => h.of_noMistake (not_underivable s hvm)
    dsimp only
    split_ifs with hmissing
    · refine ⟨id, fun now => ⟨id, fun _ => .inr ⟨id, _, rfl, ?_⟩⟩⟩
      unfold Reports
      dsimp only
      rw [if_pos hmissing]
      split_ifs
      · exact .inl rfl
      · exact .inr rfl
    · refine reports_stepFailed s id ?_
      unfold Reports
      dsimp only
      rw [if_neg hmissing]
      rfl

end Lifecycle

end MachineActuator
