import Mathlib
import MachineActuator.Proofs.Cluster.Answer
import MachineActuator.Proofs.Control.ErrorPolicy
import MachineActuator.Proofs.Machine.Update
import MachineActuator.Proofs.Outage
import MachineActuator.Proofs.Time.Elapsed

/-! # Waiting for a missing virtual machine

An update that finds no virtual machine asks to be looked at again after a while, sooner if the
machine has not been updated lately (`Machine.retryDelay`).  As time goes on the machine can only
come to be retried sooner (`Machine.retryDelay_of_le`).  Such an update changes nothing
(`Program.Awaits`), and no other update asks for a fixed delay (`OnlyAwaited`).
`Operation.missing_vm_retried` puts this together with what the error policy makes of the delay. -/

namespace MachineActuator

/-! ### The delay -/

namespace Machine

def lastUpdated? (m : Machine) : Option Instant := m.status >>= (·.lastUpdated)

/-- The machine has no provider id yet, was never updated, or was updated more than twenty seconds
ago, to the nanosecond. -/
def UpdateDue (m : Machine) (now : Instant) : Prop :=
  m.spec.providerId = none ∨ m.spec.providerId = some "" ∨ m.lastUpdated? = none ∨
    ∃ updated, m.lastUpdated? = some updated ∧ 20 * 1000000000 < now.since updated

instance (m : Machine) (now : Instant) : Decidable (m.UpdateDue now) :=
  decidable_of_iff (m.spec.providerId = none ∨ m.spec.providerId = some "" ∨
    ∀ updated ∈ m.lastUpdated?, 20 * 1000000000 < now.since updated) <| by
    unfold UpdateDue
    cases m.lastUpdated? with
    | none => simp
    | some updated => simp

/-- The delay after a missing virtual machine. -/
def retryDelay (m : Machine) (now : Instant) : Duration :=
  if m.UpdateDue now then .ofSeconds 20 else .ofSeconds 180

variable {m : Machine} {now now' : Instant}

theorem UpdateDue.of_le (h : m.UpdateDue now) (hnow : now.isLeap = false) (hnow' : now'.Valid)
    (hle : now ≤ now') (hupdated : ∀ updated, m.lastUpdated? = some updated → updated.Valid) :
    m.UpdateDue now' := by
  obtain hnone | hempty | hnever | ⟨updated, hsome, hlong⟩ := h
  · exact .inl hnone
  · exact .inr (.inl hempty)
  · exact .inr (.inr (.inl hnever))
  · have hlong' := Instant.passed_of_le (hupdated updated hsome) hnow hnow' hle hlong
    exact .inr (.inr (.inr ⟨updated, hsome, hlong'⟩))

/-- As time goes on the delay stays as it is or becomes the short one.  Clocks do not read leap
seconds. -/
theorem retryDelay_of_le (hnow : now.isLeap = false) (hnow' : now'.Valid) (hle : now ≤ now')
    (hupdated : ∀ updated, m.lastUpdated? = some updated → updated.Valid) :
    m.retryDelay now' = m.retryDelay now ∨
      m.retryDelay now = .ofSeconds 180 ∧ m.retryDelay now' = .ofSeconds 20 := by
  unfold retryDelay
  by_cases hdue : m.UpdateDue now
  · rw [if_pos hdue, if_pos (hdue.of_le hnow hnow' hle hupdated)]
    exact .inl rfl
  · rw [if_neg hdue]
    split_ifs
    · exact .inr ⟨rfl, rfl⟩
    · exact .inl rfl

end Machine

theorem Scope.updateAllowedAt_shortDelay_iff {s : Scope} {now : Instant} :
    s.updateAllowedAt Lifecycle.shortDelay now = true ↔ s.machine.UpdateDue now := by
  have hid : s.machine.spec.providerId.getD "" = "" ↔
      s.machine.spec.providerId = none ∨ s.machine.spec.providerId = some "" := by
    cases s.machine.spec.providerId with
    | none => simp
    | some id => simp
  have hinterval : ((Lifecycle.shortDelay.inNanos : ℕ) : ℤ) = 20 * 1000000000 := rfl
  unfold updateAllowedAt Machine.UpdateDue Machine.lastUpdated?
  rw [← or_assoc, ← hid, hinterval]
  split_ifs with hempty
  · exact iff_of_true rfl (.inl hempty)
  · rw [or_iff_right hempty]
    cases s.machine.status >>= (·.lastUpdated) with
    | none => simp
    | some updated => simp

theorem Lifecycle.delay_eq_retryDelay (s : Scope) (now : Instant) :
    (if s.updateAllowedAt shortDelay now then shortDelay else longDelay) =
      s.machine.retryDelay now := by
  unfold Machine.retryDelay
  simp only [Scope.updateAllowedAt_shortDelay_iff]
  rfl

/-! ### Where the virtual machine is missing -/

/-- Looking up the virtual machine of the scope finds none, and this is the time. -/
def FindsNone (s : Scope) (now : Instant) : (e : Effect) → e.Answer → Prop
  | .infra (.getVirtualMachine ns name), answer =>
    ns = s.infraNs → name = s.name → ∃ e, answer = .error e ∧ e.isNotFound = true
  | .now, answer => answer = now
  | _, _ => True

/-- As long as the virtual machine is not found, the program changes nothing and asks for the delay
of the machine. -/
abbrev Program.Awaits {α : Type} (s : Scope) (now : Instant)
    (p : Program (Except ControllerError α)) : Prop :=
  p.EnsuresIf (FindsNone s now) Effect.IsPassive fun r =>
    r = .error (.requeueAfter s.name (s.machine.retryDelay now))

open Program (ensuresIf_pure ensuresIf_effect)

theorem Lifecycle.awaits_update {s : Scope} {desired : VirtualMachine}
    (hderived : s.virtualMachine = .ok desired) (now : Instant) :
    (update Scope.sync s).Awaits s now := by
  unfold update
  rw [hderived]
  dsimp only
  rw [Scope.displayName_of_virtualMachine hderived]
  refine Program.EnsuresIf.bind
    (ensuresIf_effect trivial fun _ hanswer => hanswer rfl rfl) ?_
  rintro answer ⟨e, rfl, he⟩
  dsimp only
  rw [if_pos he]
  unfold awaitVm
  refine Program.EnsuresIf.bind (ensuresIf_effect trivial fun _ hanswer => hanswer) ?_
  rintro time rfl
  refine Program.EnsuresIf.bind (ensuresIf_log _ _) fun _ _ => ?_
  rw [delay_eq_retryDelay]
  exact ensuresIf_pure rfl

namespace Operation

variable {settings : Settings} {m : Machine} {s : Scope} {desired : VirtualMachine}

theorem awaits_tryUpdate (hscope : Scope.ofMachine settings m = .ok s)
    (hderived : s.virtualMachine = .ok desired) (now : Instant) :
    (tryUpdate settings m).Awaits s now := by
  obtain ⟨rfl, -⟩ := Scope.eq_of_ofMachine hscope
  unfold tryUpdate
  rw [hscope]
  refine Program.EnsuresIf.bind (ensuresIf_log _ _) fun _ _ => ?_
  refine Program.EnsuresIf.bind (Lifecycle.awaits_update hderived now) ?_
  rintro result rfl
  exact Program.EnsuresIf.bind (ensuresIf_persist_same s.machine _) fun _ _ => ensuresIf_pure rfl

theorem awaits_update (hscope : Scope.ofMachine settings m = .ok s)
    (hderived : s.virtualMachine = .ok desired) (now : Instant) :
    (update settings m).Awaits s now := by
  unfold update
  refine Program.EnsuresIf.bind (awaits_tryUpdate hscope hderived now) ?_
  rintro result rfl
  unfold reportFailure
  refine Program.EnsuresIf.bind (ensuresIf_log _ _) fun _ _ => ?_
  exact Program.EnsuresIf.bind (ensuresIf_effect trivial fun _ _ => trivial)
    fun _ _ => ensuresIf_pure rfl

end Operation

theorem Environment.now_passive {e : Effect} (he : e.IsPassive) (env : Environment) :
    (answer .memory e env).2.now = env.now := by
  cases e with
  | infra call | now | publish _ | log _ => rfl
  | _ => exact False.elim he

/-- Where the virtual machine is missing and looking up works, it is not found, and passive effects
change neither that nor the time. -/
theorem findsNone_of_missing {s : Scope} {env : Environment}
    (hworks : env.infra.failures .getVirtualMachine = none)
    (hmissing : env.infra.virtualMachines s.infraNs s.name = none) (e : Effect)
    (env' : Environment) (he : e.IsPassive)
    (hkept : env'.clusters = env.clusters ∧ env'.now = env.now) :
    FindsNone s env.now e (Step.mk e env').answer ∧
      (Step.mk e env').after.clusters = env.clusters ∧ (Step.mk e env').after.now = env.now := by
  obtain ⟨hclusters, hnow⟩ := hkept
  refine ⟨?_, (Environment.clusters_passive he env').trans hclusters,
    (Environment.now_passive he env').trans hnow⟩
  have hinfra : env'.infra = env.infra := congrArg Prod.fst hclusters
  cases e with
  | infra call =>
    cases call with
    | getVirtualMachine ns name =>
      rintro rfl rfl
      refine ⟨.notFound (objectPath "VirtualMachine" s.infraNs s.name), ?_, rfl⟩
      change (env'.infra.answer _).1 = _
      rw [hinfra, InfraCluster.answer_getVirtualMachine_absent hworks hmissing]
    | _ => trivial
  | now => exact hnow
  | _ => trivial

/-! ### No other update asks for a fixed delay -/

/-- The virtual machine could be derived; it was looked up, looking up worked, and it was missing;
and the error asks for the delay of the machine at a time that was asked for. -/
structure Awaited (s : Scope) (steps : List Step) (e : ControllerError) : Prop where
  derived : ∃ desired, s.virtualMachine = .ok desired
  missing : ∃ step ∈ steps, step.effect = .infra (.getVirtualMachine s.infraNs s.name) ∧
    step.before.infra.failures .getVirtualMachine = none ∧
    step.before.infra.virtualMachines s.infraNs s.name = none
  timed : ∃ step ∈ steps, step.effect = .now ∧
    e = .requeueAfter s.name (s.machine.retryDelay step.before.now)

/-- An error with a fixed delay stems from a missing virtual machine. -/
def OnlyAwaited {α : Type} (s : Scope) (steps : List Step) (r : Except ControllerError α) : Prop :=
  ∀ e, r = .error e → e.requeueDelay? ≠ none → Awaited s steps e

section Rules

variable {α β : Type} {Drift : Environment → Environment → Prop} {s : Scope}
  {early late : List Step}

/-- The program has no errors with a fixed delay. -/
abbrev Program.Undelayed (p : Program (Except ControllerError α)) : Prop :=
  p.Ensures (fun _ => True) fun r => ∀ e, r = .error e → e.requeueDelay? = none

theorem undelayed_error {e : ControllerError} (he : e.requeueDelay? = none) :
    (pure (.error e) : Program (Except ControllerError α)).Undelayed :=
  Program.ensures_pure fun _ h => Except.error.inj h ▸ he

theorem undelayed_ok (a : α) : (pure (.ok a) : Program (Except ControllerError α)).Undelayed :=
  Program.ensures_pure fun _ h => by cases h

theorem Program.Undelayed.bind {p : Program (Except ControllerError α)}
    {f : Except ControllerError α → Program (Except ControllerError β)} (hp : p.Undelayed)
    (herror : ∀ e, e.requeueDelay? = none → (f (.error e)).Undelayed)
    (hok : ∀ a, (f (.ok a)).Undelayed) : (p >>= f).Undelayed := by
  refine Program.Ensures.bind hp fun result hresult => ?_
  cases result with
  | error e => exact herror e (hresult e rfl)
  | ok a => exact hok a

theorem Awaited.mono {steps steps' : List Step} {e : ControllerError} (h : Awaited s steps e)
    (hsteps : ∀ step ∈ steps, step ∈ steps') : Awaited s steps' e := by
  obtain ⟨hderived, ⟨look, hlook, hmissing⟩, clock, hclock, htimed⟩ := h
  exact ⟨hderived, ⟨look, hsteps look hlook, hmissing⟩, clock, hsteps clock hclock, htimed⟩

theorem OnlyAwaited.append_left {r : Except ControllerError α} (early : List Step)
    (h : OnlyAwaited s late r) : OnlyAwaited s (early ++ late) r :=
  fun e he hdelay => (h e he hdelay).mono fun _ => List.mem_append_right _

theorem OnlyAwaited.append_right {e : ControllerError}
    (h : OnlyAwaited s early (.error e : Except ControllerError α)) :
    OnlyAwaited s (early ++ late) (.error e : Except ControllerError β) := by
  intro e' he' hdelay
  obtain rfl := Except.error.inj he'
  exact (h e rfl hdelay).mono fun _ => List.mem_append_left _

theorem Program.Undelayed.tells {p : Program (Except ControllerError α)} (hp : p.Undelayed) :
    p.Tells Drift (OnlyAwaited s) := by
  refine (Program.Ensures.tells hp).mono ?_
  rintro steps result ⟨-, hnone⟩ e he hdelay
  exact absurd (hnone e he) hdelay

theorem onlyAwaited_after {p : Program α} {f : α → Program (Except ControllerError β)}
    (hf : ∀ a, (f a).Tells Drift (OnlyAwaited s)) : (p >>= f).Tells Drift (OnlyAwaited s) := by
  refine (Program.Tells.bind (Program.only_true p).tells hf).mono ?_
  rintro steps result ⟨early, late, a, rfl, -, hlate⟩
  exact hlate.append_left early

/-- What comes last does not matter if it passes errors on. -/
theorem onlyAwaited_then {p : Program (Except ControllerError α)}
    {f : Except ControllerError α → Program (Except ControllerError β)}
    (hp : p.Tells Drift (OnlyAwaited s))
    (herror : ∀ e, (f (.error e)).Ensures (fun _ => True) fun r => r = .error e)
    (hok : ∀ a, (f (.ok a)).Undelayed) : (p >>= f).Tells Drift (OnlyAwaited s) := by
  intro env steps result env' h
  obtain ⟨outcome, mid, early, late, rfl, hearly, hlate⟩ := h.bind_done
  cases outcome with
  | error e =>
    obtain ⟨-, rfl⟩ := hlate.ensures (herror e)
    exact (hp _ _ _ _ hearly).append_right
  | ok a => exact ((hok a).tells _ _ _ _ hlate).append_left early

end Rules

namespace Lifecycle

variable {Drift : Environment → Environment → Prop} {s : Scope}

theorem undelayed_stepFailed {α : Type} (machine : String) (action : MachineAction) (what : String)
    {source : ControllerError} (hsource : source.requeueDelay? = none) :
    (stepFailed machine action what source : Program (Except ControllerError α)).Undelayed := by
  unfold stepFailed
  exact (Program.only_true _).bind fun _ => undelayed_error hsource

theorem undelayed_sync (vm : VirtualMachine) (vmi : VirtualMachineInstance) (providerId : String) :
    (s.sync vm vmi providerId).Undelayed := by
  unfold Scope.sync
  refine (Program.only_true _).bind fun _ => ?_
  refine (Program.only_true _).bind fun _ => ?_
  refine (Program.only_true _).bind fun _ => ?_
  exact (Program.only_true _).bind fun _ => undelayed_ok _

theorem undelayed_observe (vm : VirtualMachine) (action : MachineAction) :
    (observe Scope.sync s vm action).Undelayed := by
  unfold observe
  refine (Program.only_true _).bind fun answer => ?_
  cases answer with
  | error e => exact undelayed_stepFailed _ _ _ rfl
  | ok vmi =>
    exact (undelayed_sync vm vmi _).bind (fun e he => undelayed_stepFailed _ _ _ he)
      fun s' => undelayed_ok s'

theorem undelayed_replace (desired existing : VirtualMachine) :
    (replace Scope.sync s desired existing).Undelayed := by
  unfold replace
  refine (Program.only_true _).bind fun answer => ?_
  cases answer with
  | error e => exact undelayed_stepFailed _ _ _ rfl
  | ok updated =>
    refine (Program.only_true _).bind fun _ => ?_
    exact (undelayed_observe updated .update).bind (fun e he => undelayed_error he)
      fun s' => undelayed_ok _

/-- Waiting begins after the look-up that found no virtual machine. -/
theorem onlyAwaited_awaitVm {vmNs vmName : String} {look : Step} {env env' : Environment}
    {steps : List Step} {result : Except ControllerError (Bool × Scope)}
    (hderived : ∃ desired, s.virtualMachine = .ok desired)
    (hlook : look.effect = .infra (.getVirtualMachine s.infraNs s.name))
    (hmissing : look.before.infra.failures .getVirtualMachine = none ∧
      look.before.infra.virtualMachines s.infraNs s.name = none)
    (h : Course Drift env (awaitVm s vmNs vmName) steps (.done result) env') :
    OnlyAwaited s (look :: steps) result := by
  unfold awaitVm at h
  obtain ⟨before, rest, -, rfl, hrest⟩ := h.of_effect_bind_done
  obtain ⟨logged, nothing, -, rfl, hnothing⟩ := hrest.of_effect_bind_done
  obtain ⟨rfl, hresult, -⟩ := hnothing.of_done
  intro e he _
  rw [Program.done.inj hresult, delay_eq_retryDelay] at he
  exact ⟨hderived, ⟨look, List.mem_cons_self, hlook, hmissing⟩, ⟨.now, before⟩,
    List.mem_cons_of_mem _ List.mem_cons_self, rfl, (Except.error.inj he).symm⟩

theorem onlyAwaited_update : (update Scope.sync s).Tells Drift (OnlyAwaited s) := by
  unfold update
  cases hvm : s.virtualMachine with
  | error cause =>
    exact (undelayed_stepFailed _ _ _ (Scope.requeueDelay?_of_virtualMachine hvm)).tells
  | ok desired =>
    dsimp only
    rw [Scope.displayName_of_virtualMachine hvm]
    intro env steps result env' h
    obtain ⟨before, rest, -, rfl, hrest⟩ := h.of_effect_bind_done
    cases hanswer : (before.infra.answer (.getVirtualMachine s.infraNs s.name)).1 with
    | ok existing =>
      rw [show (Step.mk (.infra _) before).answer = .ok existing from hanswer] at hrest
      exact ((undelayed_replace _ existing).tells _ _ _ _ hrest).append_left [_]
    | error cause =>
      rw [show (Step.mk (.infra _) before).answer = .error cause from hanswer] at hrest
      dsimp only at hrest
      split_ifs at hrest with hnotFound
      · have hmissing := InfraCluster.missing_of_isNotFound hanswer hnotFound
        exact onlyAwaited_awaitVm ⟨_, hvm⟩ rfl hmissing hrest
      · exact ((undelayed_stepFailed _ _ _ rfl).tells _ _ _ _ hrest).append_left [_]

end Lifecycle

namespace Operation

variable {Drift : Environment → Environment → Prop} {settings : Settings} {m : Machine}
  {s : Scope}

theorem undelayed_patchMachine (before after : Machine) (action : MachineAction) :
    (patchMachine before after action).Undelayed := by
  unfold patchMachine
  split
  · exact undelayed_ok ()
  · refine (Program.only_true _).bind fun answer => ?_
    cases answer with
    | error e => exact undelayed_error rfl
    | ok stored => exact undelayed_ok ()

theorem undelayed_patchStatus (before after : Machine) (action : MachineAction) (now : Instant) :
    (patchStatus before after action now).Undelayed := by
  unfold patchStatus
  split
  · exact undelayed_ok ()
  · refine (Program.only_true _).bind fun answer => ?_
    cases answer with
    | error e => exact undelayed_error rfl
    | ok stored => exact undelayed_ok ()

theorem undelayed_persist (before after : Machine) (action : MachineAction) :
    (persist before after action).Undelayed := by
  unfold persist
  refine (Program.only_true _).bind fun _ => ?_
  refine (undelayed_patchMachine before after action).bind (fun e he => undelayed_error he)
    fun _ => ?_
  exact (Program.only_true _).bind fun now => undelayed_patchStatus before after action now

theorem onlyAwaited_tryUpdate (hscope : Scope.ofMachine settings m = .ok s) :
    (tryUpdate settings m).Tells Drift (OnlyAwaited s) := by
  unfold tryUpdate
  rw [hscope]
  refine onlyAwaited_after fun _ => onlyAwaited_then Lifecycle.onlyAwaited_update ?_ ?_
  · exact fun e => (Program.only_true _).bind fun _ => Program.ensures_pure rfl
  · rintro ⟨changed, synced⟩
    exact (undelayed_persist m synced.machine .update).bind (fun e he => undelayed_error he)
      fun _ => undelayed_ok changed

/-- A machine without a scope fails without a fixed delay. -/
theorem undelayed_tryUpdate_of_error {cause : ControllerError}
    (hscope : Scope.ofMachine settings m = .error cause) : (tryUpdate settings m).Undelayed := by
  unfold tryUpdate
  rw [hscope]
  exact undelayed_error (Scope.requeueDelay?_of_ofMachine hscope)

/-- An update that fails has failed before it is reported. -/
theorem exists_course_tryUpdate {env env' : Environment} {steps : List Step} {e : ControllerError}
    (h : Course Drift env (update settings m) steps (.done (.error e)) env') :
    ∃ early late mid, steps = early ++ late ∧
      Course Drift env (tryUpdate settings m) early (.done (.error e)) mid := by
  unfold update at h
  obtain ⟨outcome, mid, early, late, rfl, hearly, hlate⟩ := h.bind_done
  refine ⟨early, late, mid, rfl, ?_⟩
  cases outcome with
  | error cause =>
    have hreport : (reportFailure m .update cause : Program (Except ControllerError Unit)).Ensures
        (fun _ => True) fun r => r = .error cause :=
      ⟨trivial, fun _ => ⟨trivial, fun _ => rfl⟩⟩
    obtain ⟨-, hcause⟩ := hlate.ensures hreport
    rw [Except.error.inj hcause]
    exact hearly
  | ok changed =>
    have hreport : (do
        reportSuccess m .update "Updated"
        pure (.ok ()) : Program (Except ControllerError Unit)).Ensures (fun _ => True)
          fun r => r = .ok () := ⟨trivial, fun _ => rfl⟩
    cases changed with
    | true => exact nomatch (hlate.ensures hreport).2
    | false => exact nomatch Program.done.inj hlate.of_done.2.1

/-! ### The whole way of the delay -/

/-- An update of a machine whose virtual machine is missing, while looking up works, changes neither
cluster, asks neither of them for anything but to look up, and fails with the delay of the machine.
As time goes on, on a clock that reads no leap seconds, this delay can only become the short one.
No update fails with a fixed delay otherwise, whatever others do to the clusters meanwhile.  Under
the finalizer the delay is the one after which the machine is looked at again, and counts for
nothing else. -/
theorem missing_vm_retried (settings : Settings) (m : Machine) :
    (∀ s desired env, Scope.ofMachine settings m = .ok s → s.virtualMachine = .ok desired →
      env.infra.failures .getVirtualMachine = none →
      env.infra.virtualMachines s.infraNs s.name = none →
      (env.run .memory (update settings m)).1 =
        .error (.requeueAfter s.name (m.retryDelay env.now)) ∧
      (env.run .memory (update settings m)).2.clusters = env.clusters ∧
      ∀ step ∈ (update settings m).steps env, step.effect.IsPassive) ∧
    (∀ now now' : Instant, now.isLeap = false → now'.Valid → now ≤ now' →
      (∀ updated, m.lastUpdated? = some updated → updated.Valid) →
      m.retryDelay now' = m.retryDelay now ∨
        m.retryDelay now = .ofSeconds 180 ∧ m.retryDelay now' = .ofSeconds 20) ∧
    (∀ Drift env steps e env',
      Course Drift env (update settings m) steps (.done (.error e)) env' →
      e.requeueDelay? ≠ none →
      ∃ s, Scope.ofMachine settings m = .ok s ∧ Awaited s steps e) ∧
    ∀ e delay t, e.requeueDelay? = some delay →
      (m.errorPolicy t (.applyFailed e)).1 = .requeue delay ∧
        (m.errorPolicy t (.applyFailed e)).2.2 = t := by
  refine ⟨?_, fun _ _ => Machine.retryDelay_of_le, ?_, fun e delay t he => ?_⟩
  · intro s desired env hscope hderived hworks hmissing
    have hawaits := awaits_update hscope hderived env.now
    have hanswer := findsNone_of_missing hworks hmissing
    obtain ⟨hresult, hclusters, -⟩ := hawaits.run hanswer ⟨rfl, rfl⟩
    obtain ⟨rfl, -⟩ := Scope.eq_of_ofMachine hscope
    exact ⟨hresult, hclusters, hawaits.steps hanswer ⟨rfl, rfl⟩⟩
  · intro Drift env steps e env' hcourse hdelay
    obtain ⟨early, late, mid, rfl, htry⟩ := exists_course_tryUpdate hcourse
    cases hscope : Scope.ofMachine settings m with
    | error cause =>
      exact absurd ((htry.ensures (undelayed_tryUpdate_of_error hscope)).2 e rfl) hdelay
    | ok s =>
      have hawaited := onlyAwaited_tryUpdate hscope _ _ _ _ htry e rfl hdelay
      exact ⟨s, rfl, hawaited.mono fun _ => List.mem_append_left late⟩
  · exact Machine.errorPolicy_of_delay he

/-- The small machine once it has a provider id and was updated. -/
def settled : Machine :=
  { Machine.worker with
    spec := { Machine.worker.spec with providerId := some "kubevirt://infra/worker" }
    status := some { lastUpdated := some ⟨100, 0⟩ } }

/-- A time at which both clusters are empty. -/
def emptyAt (now : Instant) : Environment where
  now := now

/-- Twenty seconds after the update the delay is the long one.  A nanosecond later it is the short
one, stays so, and outlasts the handling of the finalizer. -/
theorem missing_vm_retried_settled :
    let settings : Settings := ⟨⟨"infra", "c"⟩, {}⟩
    let long := .requeueAfter "worker" (.ofSeconds 180)
    let short := .requeueAfter "worker" (.ofSeconds 20)
    ((emptyAt ⟨120, 0⟩).run .memory (update settings settled)).1 = .error long ∧
      ((emptyAt ⟨120, 1⟩).run .memory (update settings settled)).1 = .error short ∧
      settled.retryDelay ⟨300, 0⟩ = .ofSeconds 20 ∧
      (∃ s, Scope.ofMachine settings settled = .ok s ∧
        Awaited s ((update settings settled).steps (emptyAt ⟨120, 1⟩)) short) ∧
      (settled.errorPolicy .fresh (.applyFailed short)).1 = .requeue (.ofSeconds 20) := by
  intro settings long short
  obtain ⟨hmissing, htime, honly, hpolicy⟩ := missing_vm_retried settings settled
  have hlong := (hmissing _ _ (emptyAt ⟨120, 0⟩) rfl rfl rfl rfl).1
  have hshort := (hmissing _ _ (emptyAt ⟨120, 1⟩) rfl rfl rfl rfl).1
  have hbefore : settled.retryDelay ⟨120, 0⟩ = .ofSeconds 180 := by decide +kernel
  have hafter : settled.retryDelay ⟨120, 1⟩ = .ofSeconds 20 := by decide +kernel
  rw [show (emptyAt ⟨120, 0⟩).now = ⟨120, 0⟩ from rfl, hbefore] at hlong
  rw [show (emptyAt ⟨120, 1⟩).now = ⟨120, 1⟩ from rfl, hafter] at hshort
  have hupdated : ∀ updated, settled.lastUpdated? = some updated → updated.Valid := by
    intro updated h
    obtain rfl := Option.some.inj h
    exact ⟨by decide +kernel, by decide +kernel, by decide +kernel, by decide +kernel⟩
  have hstays : settled.retryDelay ⟨300, 0⟩ = .ofSeconds 20 := by
    obtain hsame | ⟨hlonger, -⟩ := htime ⟨120, 1⟩ ⟨300, 0⟩ (by decide)
      ⟨by decide +kernel, by decide +kernel, by decide +kernel, by decide +kernel⟩ (by decide)
      hupdated
    · exact hsame.trans hafter
    · exact absurd (hafter.symm.trans hlonger) (by decide)
  have hcourse := Course.of_steps (fun _ _ => False) (update settings settled) (emptyAt ⟨120, 1⟩)
  rw [hshort] at hcourse
  exact ⟨hlong, hshort, hstays, honly _ _ _ _ _ hcourse (Option.some_ne_none _),
    (hpolicy short _ .fresh rfl).1⟩

end Operation

end MachineActuator
