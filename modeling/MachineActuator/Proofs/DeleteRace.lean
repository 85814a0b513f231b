import Mathlib
import MachineActuator.Proofs.Cluster.Answer
import MachineActuator.Proofs.FinalizerGuard
import MachineActuator.Proofs.Machine.Delete
import MachineActuator.Proofs.OwnSecret

/-! # Racing to delete a virtual machine

A virtual machine is looked up before it is deleted, and others may delete it at any moment
(`contenders`).  Whoever carries it out, the virtual machine is gone when a deletion has ended
(`course_delete`).  One that is gone before the look-up counts as deleted; one that vanishes between
the look-up and the deletion is reported as an error, though there is nothing left to do and the
next attempt finds it so (`delete_fails_iff`). -/

namespace MachineActuator

/-! ### Calls -/

namespace InfraCluster

variable {c : InfraCluster} {ns name : String}

theorem failures_answer (c : InfraCluster) (call : InfraCall) :
    (c.answer call).2.failures = c.failures := by
  have hchanges := c.changes_answer call
  generalize (c.answer call).2 = after at hchanges ⊢
  cases hchanges with
  | _ => rfl

theorem answer_getVirtualMachine_up (hup : c.failures .getVirtualMachine = none) :
    (c.answer (.getVirtualMachine ns name)).1 =
      orNotFound "VirtualMachine" ns name (c.virtualMachines ns name) := by
  unfold answer
  rw [show InfraCall.operation (.getVirtualMachine ns name) = .getVirtualMachine from rfl, hup]
  rfl

theorem answer_deleteVirtualMachine_up (ns name : String)
    (hup : c.failures .deleteVirtualMachine = none) (grace : Nat) :
    (c.answer (.deleteVirtualMachine ns name grace)).1 =
        (orNotFound "VirtualMachine" ns name (c.virtualMachines ns name)).map (fun _ => ()) ∧
      (c.answer (.deleteVirtualMachine ns name grace)).2.virtualMachines ns name = none := by
  unfold answer
  rw [show InfraCall.operation (.deleteVirtualMachine ns name grace) = .deleteVirtualMachine
    from rfl, hup]
  simp only [perform, deleteVirtualMachine]
  cases hvm : c.virtualMachines ns name with
  | none => exact ⟨rfl, hvm⟩
  | some vm => exact ⟨rfl, Store.remove_same _ _ _⟩

end InfraCluster

namespace DeleteRace

open FinalizerGuard (Absent)
open Lifecycle (workerScope)

/-! ### A deletion in changing surroundings -/

/-- Looking virtual machines up and deleting them do not fail. -/
def Up (env : Environment) : Prop :=
  env.infra.failures .getVirtualMachine = none ∧ env.infra.failures .deleteVirtualMachine = none

/-- Anything may happen, but no virtual machine appears under the name and the calls of a deletion
go on to work. -/
def Drift (ns name : String) (env env' : Environment) : Prop :=
  (Absent ns name env → Absent ns name env') ∧ (Up env → Up env')

/-- The look-up of the virtual machine of a scope. -/
def lookUp (s : Scope) : Effect := .infra (.getVirtualMachine s.infraNs s.name)

/-- The deletion of the virtual machine of a scope. -/
def deletion (s : Scope) : Effect :=
  .infra (.deleteVirtualMachine s.infraNs s.name Lifecycle.deleteGraceSeconds)

/-- The error of a deletion that was refused. -/
def refused (s : Scope) (e : ClientError) : ControllerError :=
  .step s.name .delete "failed to delete Virtual Machine in infraCluster" (.client e)

/-- The error of a deletion that found nothing to delete. -/
def vanished (s : Scope) : ControllerError :=
  refused s (.notFound (objectPath "VirtualMachine" s.infraNs s.name))

variable {s : Scope} {ns name : String} {env env' : Environment}

theorem stable_absent : Stable (Drift ns name) (Absent ns name) := fun _ _ drift => drift.1

theorem stable_up : Stable (Drift ns name) Up := fun _ _ drift => drift.2

theorem up_after (step : Step) (h : Up step.before) : Up step.after := by
  unfold Up at h ⊢
  obtain ⟨call, -, hafter⟩ | hafter := step.infra_after
  · rw [hafter, InfraCluster.failures_answer]
    exact h
  · rw [hafter]
    exact h

/-- A line of the log completes a deletion and changes nothing. -/
theorem of_log_pure {α : Type} {level : LogLevel} {text : String} {a b : α} {steps : List Step}
    (h : Course (Drift ns name) env (do Program.log level text; pure a) steps (.done b) env') :
    b = a ∧ (∀ step ∈ steps, ∃ line, step.effect = .log line) ∧
      (Absent ns name env → Absent ns name env') ∧ (Up env → Up env') := by
  have hensures : (do Program.log level text; pure a : Program α).Ensures
      (fun e => ∃ line, e = .log line) fun b => b = a := ⟨⟨_, rfl⟩, fun _ => rfl⟩
  have hsame (step : Step) (hlog : ∃ line, step.effect = .log line) :
      step.after.infra = step.before.infra := by
    obtain ⟨line, hline⟩ := hlog
    obtain ⟨call, hcall, -⟩ | hafter := step.infra_after
    · simp [hline] at hcall
    · exact hafter
  obtain ⟨hsteps, hb⟩ := h.ensures hensures
  refine ⟨hb, hsteps, fun habsent => ?_, fun hup => ?_⟩
  · refine (h.keeps hensures.only stable_absent (fun step hlog hbefore => ?_) habsent).2
    unfold Absent
    rw [hsame step hlog]
    exact hbefore
  · exact (h.keeps hensures.only stable_up (fun step _ => up_after step) hup).2

theorem not_mem_of_logs {e : Effect} {steps : List Step} {before : Environment}
    (hsteps : ∀ step ∈ steps, ∃ line, step.effect = .log line) (he : ∀ line, e ≠ .log line) :
    (⟨e, before⟩ : Step) ∉ steps := fun hmem =>
  let ⟨line, hline⟩ := hsteps _ hmem
  he line hline

/-- The call to delete and what follows it: the virtual machine is gone afterwards, and the call has
failed if it was gone before. -/
theorem course_deletion {f : Except ClientError Unit → Program (Except ControllerError Unit)}
    {steps : List Step} {result : Except ControllerError Unit}
    (hf : ∀ r, ∃ level text, f r = do Program.log level text; pure (r.mapError (refused s)))
    (h : Course (Drift s.infraNs s.name) env (Program.infra (.deleteVirtualMachine s.infraNs s.name
      Lifecycle.deleteGraceSeconds) >>= f) steps (.done result) env') (hup : Up env) :
    Absent s.infraNs s.name env' ∧ Up env' ∧ ∃ at₂ rest, steps = ⟨deletion s, at₂⟩ :: rest ∧
      (∀ step ∈ rest, ∃ line, step.effect = .log line) ∧
      ((result = .ok () ∧ ¬ Absent s.infraNs s.name at₂) ∨
        (result = .error (vanished s) ∧ Absent s.infraNs s.name at₂)) := by
  obtain ⟨-, hq, -⟩ | ⟨at₂, rest, hdrift, rfl, hrest⟩ := h.of_effect_bind
  · simp [Program.effect] at hq
  have hup₂ : Up at₂ := stable_up.of_drifts hdrift hup
  obtain ⟨hdelete, hafter⟩ := InfraCluster.answer_deleteVirtualMachine_up s.infraNs s.name hup₂.2
    Lifecycle.deleteGraceSeconds
  have hanswer : (Step.mk (.infra (.deleteVirtualMachine s.infraNs s.name
      Lifecycle.deleteGraceSeconds)) at₂).answer = _ := hdelete
  rw [hanswer] at hrest
  obtain ⟨level, text, hprogram⟩ :=
    hf ((orNotFound "VirtualMachine" s.infraNs s.name
      (at₂.infra.virtualMachines s.infraNs s.name)).map fun _ => ())
  rw [hprogram] at hrest
  obtain ⟨hresult, hlogs, habsent, hup'⟩ := of_log_pure hrest
  refine ⟨habsent hafter, hup' (up_after _ hup₂), at₂, rest, rfl, hlogs, ?_⟩
  unfold Absent
  cases hvm : at₂.infra.virtualMachines s.infraNs s.name with
  | none =>
    rw [hvm] at hresult
    exact .inr ⟨hresult, rfl⟩
  | some vm =>
    rw [hvm] at hresult
    exact .inl ⟨hresult, Option.some_ne_none vm⟩

/-- A deletion has succeeded if the virtual machine was there at the moment of the deletion, or if
there was none when it was looked up. -/
theorem course_delete {steps : List Step} {result : Except ControllerError Unit}
    (h : Course (Drift s.infraNs s.name) env (Lifecycle.delete s) steps (.done result) env')
    (hup : Up env) :
    Absent s.infraNs s.name env' ∧ Up env' ∧
      ((result = .ok () ∧ ∀ at₂, ⟨deletion s, at₂⟩ ∈ steps → ¬ Absent s.infraNs s.name at₂) ∨
        (result = .error (vanished s) ∧ ∃ at₁ at₂ rest,
          steps = ⟨lookUp s, at₁⟩ :: ⟨deletion s, at₂⟩ :: rest ∧
          ¬ Absent s.infraNs s.name at₁ ∧ Absent s.infraNs s.name at₂)) := by
  unfold Lifecycle.delete at h
  obtain ⟨-, hq, -⟩ | ⟨at₁, rest, hdrift, rfl, hrest⟩ := h.of_effect_bind
  · simp [Program.effect] at hq
  have hup₁ : Up at₁ := stable_up.of_drifts hdrift hup
  have hget : (Step.mk (.infra (.getVirtualMachine s.infraNs s.name)) at₁).answer =
      orNotFound "VirtualMachine" s.infraNs s.name (at₁.infra.virtualMachines s.infraNs s.name) :=
    InfraCluster.answer_getVirtualMachine_up hup₁.1
  rw [hget] at hrest
  cases hvm : at₁.infra.virtualMachines s.infraNs s.name with
  | none =>
    rw [hvm] at hrest
    obtain ⟨rfl, hlogs, habsent, hup'⟩ := of_log_pure hrest
    have hafter : Absent s.infraNs s.name (Step.mk (lookUp s) at₁).after := by
      have hsame : (Step.mk (lookUp s) at₁).after.infra = at₁.infra :=
        InfraCluster.answer_getVirtualMachine_snd
      unfold Absent
      rw [hsame, hvm]
    refine ⟨habsent hafter, hup' (up_after _ hup₁), .inl ⟨rfl, fun at₂ hmem => ?_⟩⟩
    obtain hfirst | hlater := List.mem_cons.mp hmem
    · simp [deletion] at hfirst
    · exact absurd hlater (not_mem_of_logs hlogs fun _ h => by cases h)
  | some vm =>
    rw [hvm] at hrest
    have hpresent : ¬ Absent s.infraNs s.name at₁ := by
      unfold Absent
      simp [hvm]
    obtain ⟨habsent, hup', at₂, late, rfl, hlogs, ⟨rfl, hpresent₂⟩ | ⟨rfl, hmissing⟩⟩ :=
      course_deletion (fun r => by cases r with
        | ok _ => exact ⟨_, _, rfl⟩
        | error e => exact ⟨_, _, rfl⟩) hrest (up_after _ hup₁)
    · refine ⟨habsent, hup', .inl ⟨rfl, fun at₃ hmem => ?_⟩⟩
      obtain hfirst | hmem := List.mem_cons.mp hmem
      · simp [deletion] at hfirst
      obtain hsecond | hlater := List.mem_cons.mp hmem
      · obtain ⟨-, rfl⟩ := Step.mk.inj hsecond
        exact hpresent₂
      · exact absurd hlater (not_mem_of_logs hlogs fun _ h => by cases h)
    · exact ⟨habsent, hup', .inr ⟨rfl, at₁, at₂, late, rfl, hpresent, hmissing⟩⟩

/-! ### Contenders -/

/-- The effect does not create the virtual machine. -/
def NeverCreates (ns name : String) (e : Effect) : Prop :=
  ∀ vm, vm.metadata.name.getD "" = name → e ≠ .infra (.createVirtualMachine ns vm)

theorem absent_after (step : Step) (he : NeverCreates ns name step.effect)
    (h : Absent ns name step.before) : Absent ns name step.after := by
  obtain ⟨call, hcall, hafter⟩ | hafter := step.infra_after
  · by_contra hpresent
    obtain ⟨vm, hvm⟩ := Option.ne_none_iff_exists'.mp hpresent
    rw [hafter] at hvm
    obtain hbefore | ⟨asked, rfl, hname, -⟩ | ⟨asked, stored, -, -, hbefore, -⟩ :=
      InfraCluster.virtualMachines_answer_cases call hvm
    · exact nomatch h.symm.trans hbefore
    · exact he asked hname hcall
    · exact nomatch h.symm.trans hbefore
  · unfold Absent
    rw [hafter]
    exact h

section

variable {ι : Type} [DecidableEq ι] {γ : ι → Type}

/-- What comes of the deletion or of another client. -/
abbrev Outcome (γ : ι → Type) : Option ι → Type
  | none => Except ControllerError Unit
  | some i => γ i

/-- A deletion and any number of other clients. -/
def contenders (s : Scope) (clients : ∀ i, Program (γ i)) : ∀ i, Program (Outcome γ i)
  | none => Lifecycle.delete s
  | some i => clients i

variable {clients : ∀ i, Program (γ i)} {pool : ∀ i, Program (Outcome γ i)}
  {steps : List (Option ι × Step)} {result : Except ControllerError Unit}

omit [DecidableEq ι] in
theorem only_contenders (s : Scope)
    (hclients : ∀ i, (clients i).Only (NeverCreates s.infraNs s.name)) :
    ∀ i, (contenders s clients i).Only (NeverCreates s.infraNs s.name) := by
  intro i
  cases i with
  | none =>
    exact Lifecycle.only_delete (fun _ _ _ h => nomatch h) s (fun _ _ h => nomatch h)
      fun _ _ h => nomatch h
  | some i => exact hclients i

omit [DecidableEq ι] in
theorem drift_amongOthers {P : Option ι → Effect → Prop}
    (hP : ∀ i e, P i e → NeverCreates ns name e)
    (h : AmongOthers (Drift ns name) P none env env') : Drift ns name env env' := by
  obtain hdrift | ⟨i, e, -, he, rfl⟩ := h
  · exact hdrift
  · exact ⟨absent_after ⟨e, env⟩ (hP i e he), up_after ⟨e, env⟩⟩

omit [DecidableEq ι] in
/-- Whoever answers: in whatever form it is said that there is no virtual machine, the deletion
succeeds when the look-up says so, and fails when the call to delete does. -/
theorem run_delete_of_notFound {σ : Type} (answer : (e : Effect) → σ → e.Answer × σ) (st : σ)
    (s : Scope) {e : ClientError} (he : e.isNotFound = true) :
    ((answer (.infra (.getVirtualMachine s.infraNs s.name)) st).1 = .error e →
        ((Lifecycle.delete s).run answer st).1 = .ok ()) ∧
      ∀ found, (answer (.infra (.getVirtualMachine s.infraNs s.name)) st).1 = .ok found →
        (answer (.infra (.deleteVirtualMachine s.infraNs s.name Lifecycle.deleteGraceSeconds))
          (answer (.infra (.getVirtualMachine s.infraNs s.name)) st).2).1 = .error e →
        ((Lifecycle.delete s).run answer st).1 = .error (refused s e) := by
  have hget : (Lifecycle.delete s).run answer st = Program.run answer _ _ :=
    Program.run_bind answer (Program.infra (.getVirtualMachine s.infraNs s.name)) _ st
  rw [hget]
  unfold Program.infra
  rw [Program.run_effect]
  constructor
  · intro hmissing
    rw [hmissing]
    dsimp only
    rw [if_pos he]
    rfl
  · intro found hfound hmissing
    rw [hfound]
    dsimp only
    rw [Program.bind_eq_bind, Program.run_bind, Program.run_effect, hmissing]
    rfl

/-- A deletion among other clients of the virtual machine, which do not create it, has left none
when it ends.  It fails in one case only: the virtual machine was there when the deletion looked it
up, and somebody else was faster to delete it.  Attempted again, the deletion succeeds.  Whoever
answers, and in whatever form, it fails if the call to delete is what finds no virtual machine. -/
theorem delete_fails_iff (hup : Up env)
    (hclients : ∀ i, (clients i).Only (NeverCreates s.infraNs s.name))
    (hrun : Interleaved (Drift s.infraNs s.name) (contenders s clients) env steps pool env')
    (hdone : pool none = .done result) :
    Absent s.infraNs s.name env' ∧ (result = .ok () ∨ result = .error (vanished s)) ∧
      (result = .error (vanished s) ↔ ∃ at₁ at₂, (none, ⟨lookUp s, at₁⟩) ∈ steps ∧
        ¬ Absent s.infraNs s.name at₁ ∧ (none, ⟨deletion s, at₂⟩) ∈ steps ∧
        Absent s.infraNs s.name at₂) ∧
      (env'.run .memory (Lifecycle.delete s)).1 = .ok () ∧
      ∀ {σ : Type} (answer : (e : Effect) → σ → e.Answer × σ) (st : σ) (e : ClientError),
        e.isNotFound = true → ∀ found,
          (answer (.infra (.getVirtualMachine s.infraNs s.name)) st).1 = .ok found →
          (answer (.infra (.deleteVirtualMachine s.infraNs s.name Lifecycle.deleteGraceSeconds))
            (answer (.infra (.getVirtualMachine s.infraNs s.name)) st).2).1 = .error e →
          ((Lifecycle.delete s).run answer st).1 = .error (refused s e) := by
  have hown := (hrun.course (only_contenders s hclients) none).mono
    fun _ _ => drift_amongOthers fun _ _ h => h
  rw [hdone] at hown
  have hmem (step : Step) : step ∈ ownSteps none steps ↔ (none, step) ∈ steps := by
    simp [ownSteps]
  obtain ⟨habsent, hup', hresult⟩ := course_delete hown hup
  refine ⟨habsent, ?_, ?_, congrArg Prod.fst (Lifecycle.outcome_delete_absent hup'.1 habsent),
    fun answer st e he => (run_delete_of_notFound answer st s he).2⟩
  · exact hresult.imp (fun h => h.1) fun h => h.1
  · obtain ⟨rfl, hpresent⟩ | ⟨rfl, at₁, at₂, rest, hsteps, hpresent, hmissing⟩ := hresult
    · constructor
      · intro h
        cases h
      · rintro ⟨-, at₂, -, -, hdeletion, hmissing⟩
        exact absurd hmissing (hpresent at₂ ((hmem _).mpr hdeletion))
    · refine ⟨fun _ => ⟨at₁, at₂, (hmem _).mp ?_, hpresent, (hmem _).mp ?_, hmissing⟩, fun _ => rfl⟩
      · rw [hsteps]
        exact List.mem_cons_self
      · rw [hsteps]
        exact List.mem_cons_of_mem _ List.mem_cons_self

end

/-! The small machine against a rival. -/

/-- The virtual machine of the small machine. -/
def raceStart : Environment where
  infra := InfraCluster.addVirtualMachine {}
    { metadata := { name := some "worker", ns := some "infra" }
      spec := {} }
  now := ⟨0, 0⟩

/-- What the rival asks for. -/
def rival : Effect := .infra (.deleteVirtualMachine "infra" "worker" 0)

/-- The rival deletes the virtual machine after the small machine has looked it up. -/
def raceSteps : List (Option Unit × Step) :=
  [(none, ⟨lookUp workerScope, raceStart⟩), (some (), ⟨rival, raceStart⟩),
   (none, ⟨deletion workerScope, (Step.mk rival raceStart).after⟩)]

/-- The deletion fails, though the virtual machine is gone. -/
theorem delete_fails_iff_worker :
    ∃ log pool env', Interleaved (Drift "infra" "worker")
        (contenders workerScope fun _ : Unit => Program.effect rival) raceStart
        (raceSteps ++ [(none, log)]) pool env' ∧
      pool none = .done (.error (vanished workerScope)) ∧ Absent "infra" "worker" env' ∧
      (env'.run .memory (Lifecycle.delete workerScope)).1 = .ok () := by
  have hrun : ∃ log result pool env', Interleaved (Drift "infra" "worker")
      (contenders workerScope fun _ : Unit => Program.effect rival) raceStart
      (raceSteps ++ [(none, log)]) pool env' ∧ pool none = .done result :=
    ⟨_, _, _, _, .performed rfl (.performed rfl (.performed rfl (.performed rfl .stopped))), rfl⟩
  obtain ⟨log, result, pool, env', hrun, hdone⟩ := hrun
  have hclient : ∀ _ : Unit, (Program.effect rival).Only (NeverCreates "infra" "worker") :=
    fun _ => Program.only_effect fun _ _ h => nomatch h
  obtain ⟨habsent, -, hfails, hagain, -⟩ :=
    delete_fails_iff (s := workerScope) ⟨rfl, rfl⟩ hclient hrun hdone
  have hpresent : ¬ Absent "infra" "worker" raceStart := Option.some_ne_none _
  have hvanished := hfails.mpr ⟨raceStart, (Step.mk rival raceStart).after, by simp [raceSteps],
    hpresent, by simp [raceSteps], rfl⟩
  rw [hvanished] at hdone
  exact ⟨log, pool, env', hrun, hdone, habsent, hagain⟩

end DeleteRace

end MachineActuator
