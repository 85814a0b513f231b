import Mathlib
import MachineActuator.Proofs.Machine.Delete
import MachineActuator.Proofs.Machine.Failure
import MachineActuator.Proofs.OwnSecret
import MachineActuator.Proofs.UpdateLoop
import MachineActuator.Proofs.UpdateRace

/-! # Events report outcomes

The part of an operation that does the work publishes nothing (`Effect.Silent`), and what it comes
to is published afterwards.  Whether an update is worth an event is judged by the version of the
virtual machine before and after the replacement.  A replacement that succeeds had the version of
the stored machine, and no version comes after itself (`InfraCluster.nextVersion_ne`), so the
version tells whether the replacement has changed what clients own
(`Reporting.changes_iff_version_ne`); nothing else in an update changes it.  From one call
(`Reporting.Call.published_eq`) the events of a run follow by induction
(`Reporting.events_report_outcomes`). -/

namespace MachineActuator

open Program (Only only_effect only_pure)

/-! ### Published events -/

def Effect.published : Effect → List MachineEvent
  | .publish event => [event]
  | _ => []

/-- The effect publishes nothing. -/
def Effect.Silent (e : Effect) : Prop := e.published = []

/-- The events that steps publish, the first one first. -/
def published (steps : List Step) : List MachineEvent := steps.flatMap (·.effect.published)

theorem published_append (early late : List Step) :
    published (early ++ late) = published early ++ published late := List.flatMap_append

theorem published_of_silent {steps : List Step} (h : ∀ step ∈ steps, step.effect.Silent) :
    published steps = [] := List.flatMap_eq_nil_iff.mpr h

theorem Step.events_after (step : Step) :
    step.after.events = step.before.events ++ step.effect.published := by
  obtain ⟨effect, before⟩ := step
  cases effect with
  | publish event => rfl
  | infra call => exact (List.append_nil _).symm
  | tenant call => exact (List.append_nil _).symm
  | resolve host => exact (List.append_nil _).symm
  | now => exact (List.append_nil _).symm
  | log line => exact (List.append_nil _).symm
  | changeFinalizers ns name change =>
    have hsame : (Step.mk (.changeFinalizers ns name change) before).after.events =
        before.events := by
      simp only [after, Environment.answer, Environment.changeFinalizers]
      split
      · rfl
      · rfl
    rw [hsame]
    exact (List.append_nil _).symm

/-! ### Versions tell changes -/

namespace InfraCluster

/-- What a replacement that succeeds comes to: it had the version of the stored machine, which stays
if nothing differs. -/
theorem answer_updateVirtualMachine_ok {c : InfraCluster} {ns name : String}
    {vm updated : VirtualMachine} (hname : vm.metadata.name = some name)
    (h : (c.answer (.updateVirtualMachine ns vm)).1 = .ok updated) :
    ∃ stored, c.virtualMachines ns name = some stored ∧
      vm.metadata.resourceVersion = stored.metadata.resourceVersion ∧
      (updated = stored ∨ differs vm stored = true ∧ updated = replaced vm stored) := by
  obtain ⟨e, he⟩ | ⟨stored, _, hstored, hversion, hok, -, hupdated⟩ :=
    c.answer_updateVirtualMachine_cases ns vm
  · rw [he] at h
    cases h
  · obtain rfl := Except.ok.inj (hok.symm.trans h)
    rw [hname, Option.getD_some] at hstored
    exact ⟨stored, hstored, hversion, hupdated.imp_left And.right⟩

end InfraCluster

namespace Reporting

open UpdateRace (content Changes)

/-- A replacement that succeeds changes what clients own if and only if it changes the version. -/
theorem changes_iff_version_ne {before : Environment} {ns name : String}
    {vm updated : VirtualMachine} (hname : vm.metadata.name = some name)
    (h : (before.infra.answer (.updateVirtualMachine ns vm)).1 = .ok updated) :
    Changes ns name ⟨.infra (.updateVirtualMachine ns vm), before⟩ ↔
      vm.metadata.resourceVersion ≠ updated.metadata.resourceVersion := by
  have hafter := InfraCluster.stored_of_update hname h
  obtain ⟨stored, hstored, hversion, hupdated⟩ :=
    InfraCluster.answer_updateVirtualMachine_ok hname h
  have hchanges : Changes ns name ⟨.infra (.updateVirtualMachine ns vm), before⟩ ↔
      (updated.spec, updated.metadata.labels, updated.metadata.annotations) ≠
        (stored.spec, stored.metadata.labels, stored.metadata.annotations) := by
    have hnow : content ns name (Step.mk (.infra (.updateVirtualMachine ns vm)) before).after =
        some (updated.spec, updated.metadata.labels, updated.metadata.annotations) :=
      congrArg (Option.map _) hafter
    unfold Changes
    rw [hnow]
    simp only [content, hstored, Option.map_some, ne_eq, Option.some.injEq]
  rw [hchanges, hversion]
  obtain rfl | ⟨hdiffers, rfl⟩ := hupdated
  · simp
  · constructor
    · intro _
      exact InfraCluster.nextVersion_ne _
    · intro _
      exact UpdateRace.content_replaced_ne hdiffers

/-- A step that leaves the infrastructure cluster alone changes no virtual machine. -/
theorem not_changes_of_sparesInfra {step : Step} {ns name : String}
    (h : step.effect.SparesInfra) : ¬ Changes ns name step := by
  intro hchanges
  have hsame : step.after.infra = step.before.infra := h step.before
  apply hchanges
  unfold content
  rw [hsame]

/-- One of the steps changes what clients own of the virtual machine of this name: its
specification, its labels or its annotations. -/
def Changed (ns name : String) (steps : List Step) : Prop :=
  ∃ step ∈ steps, Changes ns name step

theorem changed_cons_iff {ns name : String} {step : Step} {steps : List Step}
    (h : step.effect.SparesInfra) : Changed ns name (step :: steps) ↔ Changed ns name steps := by
  constructor
  · rintro ⟨other, hother, hchanges⟩
    obtain rfl | hlater := List.mem_cons.mp hother
    · exact absurd hchanges (not_changes_of_sparesInfra h)
    · exact ⟨other, hlater, hchanges⟩
  · rintro ⟨other, hother, hchanges⟩
    exact ⟨other, List.mem_cons_of_mem _ hother, hchanges⟩

theorem changed_append_iff {ns name : String} {early late : List Step}
    (h : ∀ step ∈ late, step.effect.SparesInfra) :
    Changed ns name (early ++ late) ↔ Changed ns name early := by
  constructor
  · rintro ⟨step, hstep, hchanges⟩
    obtain hearly | hlate := List.mem_append.mp hstep
    · exact ⟨step, hearly, hchanges⟩
    · exact absurd hchanges (not_changes_of_sparesInfra (h step hlate))
  · rintro ⟨step, hstep, hchanges⟩
    exact ⟨step, List.mem_append_left _ hstep, hchanges⟩

end Reporting

open Reporting (Changed changed_cons_iff changed_append_iff changes_iff_version_ne)

/-! ### What an update tells -/

/-- If the update succeeds, it tells whether the steps have changed the virtual machine. -/
def TellsChange {α : Type} (ns name : String) (flag : α → Bool) (steps : List Step)
    (result : Except ControllerError α) : Prop :=
  ∀ a, result = .ok a → (flag a = true ↔ Changed ns name steps)

section Change

variable {Drift : Environment → Environment → Prop}

theorem tellsChange_of_errs {α : Type} {ns name : String} {flag : α → Bool}
    {p : Program (Except ControllerError α)}
    (h : p.Ensures (fun _ => True) fun r => ∃ e, r = .error e) :
    p.Tells Drift (TellsChange ns name flag) := by
  refine h.tells.mono ?_
  rintro steps result ⟨-, e, rfl⟩ a ha
  simp at ha

namespace Lifecycle

variable {s : Scope}

/-- A replacement tells whether the version differs from the one that was observed. -/
theorem ensures_replaced (existing updated : VirtualMachine) (machine : String) :
    (do
      logReplaced machine existing.metadata.resourceVersion updated.metadata.resourceVersion
      match ← observe Scope.sync s updated .update with
      | .error e => pure (.error e)
      | .ok synced => pure (.ok (decide (existing.metadata.resourceVersion ≠
          updated.metadata.resourceVersion), synced)) :
        Program (Except ControllerError (Bool × Scope))).Ensures Effect.SparesInfra
      fun r => ∀ a, r = .ok a → (a.1 = true ↔
        existing.metadata.resourceVersion ≠ updated.metadata.resourceVersion) := by
  refine Only.bind (only_effect fun _ => rfl) fun _ => ?_
  refine (sparesInfra_observe updated .update).bind fun result => ?_
  cases result with
  | error e =>
    refine Program.ensures_pure fun a ha => ?_
    simp at ha
  | ok synced =>
    refine Program.ensures_pure fun a ha => ?_
    have hflag := Except.ok.inj ha
    rw [← hflag]
    exact decide_eq_true_iff

theorem tells_change_replace (desired existing : VirtualMachine)
    (hname : desired.metadata.name = some s.name) :
    (replace Scope.sync s desired existing).Tells Drift
      (TellsChange s.infraNs s.name Prod.fst) := by
  intro env steps result env' h a ha
  unfold replace at h
  obtain ⟨before, rest, -, rfl, hrest⟩ := h.of_effect_bind_done
  cases hanswer : (before.infra.answer (.updateVirtualMachine s.infraNs
      (replacement desired existing))).1 with
  | error cause =>
    rw [show (Step.mk (.infra _) before).answer = .error cause from hanswer] at hrest
    obtain ⟨e, hresult⟩ := (hrest.ensures (errs_stepFailed _ _ _ _)).2
    rw [ha] at hresult
    simp at hresult
  | ok updated =>
    rw [show (Step.mk (.infra _) before).answer = .ok updated from hanswer] at hrest
    obtain ⟨hspares, hflag⟩ := hrest.ensures (ensures_replaced existing updated s.name)
    rw [hflag a ha]
    have hname' : (replacement desired existing).metadata.name = some s.name := hname
    have hchanges := changes_iff_version_ne hname' hanswer
    have hversion : (replacement desired existing).metadata.resourceVersion =
        existing.metadata.resourceVersion := rfl
    rw [hversion] at hchanges
    rw [← hchanges]
    constructor
    · intro hhere
      exact ⟨_, List.mem_cons_self, hhere⟩
    · rintro ⟨step, hstep, hthere⟩
      obtain rfl | hlater := List.mem_cons.mp hstep
      · exact hthere
      · exact absurd hthere (Reporting.not_changes_of_sparesInfra (hspares step hlater))

theorem tells_change_update :
    (update Scope.sync s).Tells Drift (TellsChange s.infraNs s.name Prod.fst) := by
  unfold update
  cases hvm : s.virtualMachine with
  | error cause => exact tellsChange_of_errs (errs_stepFailed _ _ _ _)
  | ok desired =>
    obtain ⟨-, mode, -, rfl⟩ := Scope.virtualMachine_eq_ok_iff.mp hvm
    intro env steps result env' h a ha
    obtain ⟨before, rest, -, rfl, hrest⟩ := h.of_effect_bind_done
    have htold : TellsChange s.infraNs s.name Prod.fst rest result := by
      cases hanswer : (before.infra.answer (.getVirtualMachine s.infraNs
          (s.virtualMachineWith mode).metadata.displayName)).1 with
      | ok existing =>
        rw [show (Step.mk (.infra _) before).answer = .ok existing from hanswer] at hrest
        exact tells_change_replace _ existing rfl _ _ _ _ hrest
      | error cause =>
        rw [show (Step.mk (.infra _) before).answer = .error cause from hanswer] at hrest
        dsimp only at hrest
        split_ifs at hrest
        · have herrs : (awaitVm s s.infraNs
              (s.virtualMachineWith mode).metadata.displayName).Ensures (fun _ => True)
                fun r => ∃ e, r = .error e :=
            ⟨trivial, fun _ => ⟨trivial, fun _ => ⟨_, rfl⟩⟩⟩
          exact tellsChange_of_errs herrs _ _ _ _ hrest
        · exact tellsChange_of_errs (errs_stepFailed _ _ _ _) _ _ _ _ hrest
    have hlook : (Effect.infra (.getVirtualMachine s.infraNs
        (s.virtualMachineWith mode).metadata.displayName)).SparesInfra :=
      fun _ => InfraCluster.answer_getVirtualMachine_snd
    rw [htold a ha]
    exact (changed_cons_iff hlook).symm

end Lifecycle

namespace Operation

variable (settings : Settings) (m : Machine)

theorem tells_change_tryUpdate :
    (tryUpdate settings m).Tells Drift
      (TellsChange settings.infra.ns (m.metadata.name.getD "") id) := by
  unfold tryUpdate
  cases hscope : Scope.ofMachine settings m with
  | error e => exact tellsChange_of_errs (Program.ensures_pure ⟨e, rfl⟩)
  | ok s =>
    obtain ⟨rfl, rfl⟩ := Scope.eq_of_ofMachine hscope
    intro env steps result env' h a ha
    obtain ⟨before, rest, -, rfl, hrest⟩ := h.of_effect_bind_done
    obtain ⟨outcome, mid, managed, late, rfl, hmanaged, hlate⟩ := hrest.bind_done
    cases outcome with
    | error e =>
      have herrs : (do
          let _ ← persist s.machine s.machine .update
          pure (.error e) : Program (Except ControllerError Bool)).Ensures (fun _ => True)
            fun r => ∃ e, r = .error e :=
        (Program.only_true _).bind fun _ => Program.ensures_pure ⟨e, rfl⟩
      obtain ⟨e', hresult⟩ := (hlate.ensures herrs).2
      rw [ha] at hresult
      simp at hresult
    | ok pair =>
      obtain ⟨hspares, hflag⟩ := hlate.ensures (P := Effect.SparesInfra)
          (Q := fun r => ∀ a, r = .ok a → a = pair.1) <| by
        refine sparesInfra_persist.bind fun written => ?_
        cases written with
        | error e => exact Program.ensures_pure fun a ha => by simp at ha
        | ok _ => exact Program.ensures_pure fun a ha => (Except.ok.inj ha).symm
      have htold := Lifecycle.tells_change_update _ _ _ _ hmanaged pair rfl
      rw [hflag a ha]
      refine htold.trans (Iff.symm ?_)
      exact (changed_cons_iff fun _ => rfl).trans (changed_append_iff hspares)

/-! ### The work is silent -/

theorem silent_persist {before after : Machine} {action : MachineAction} :
    (persist before after action).Only Effect.Silent :=
  only_persist_of (fun _ => rfl) rfl (fun _ _ _ => rfl) fun _ _ _ => rfl

theorem silent_tryCreate : (tryCreate settings m).Only Effect.Silent := by
  unfold tryCreate
  cases Scope.ofMachine settings m with
  | error e => exact only_pure _
  | ok s =>
    refine (only_log (fun _ => rfl) _ _).bind fun _ => ?_
    have hpayload : (payload s).Only Effect.Silent := only_payload s rfl
    refine hpayload.bind fun result => ?_
    cases result with
    | error e => exact only_pure _
    | ok bytes =>
      have hcreate : (Lifecycle.create Scope.sync s bytes).Only Effect.Silent :=
        Lifecycle.only_create_of s (fun _ => rfl) (fun _ => rfl) (fun _ => rfl) bytes
      refine hcreate.bind fun result => ?_
      cases result with
      | error e => exact silent_persist.bind fun _ => only_pure _
      | ok synced => exact silent_persist

theorem silent_tryUpdate : (tryUpdate settings m).Only Effect.Silent := by
  unfold tryUpdate
  cases Scope.ofMachine settings m with
  | error e => exact only_pure _
  | ok s =>
    have hupdate : (Lifecycle.update Scope.sync s).Only Effect.Silent :=
      Lifecycle.only_update_of s (fun _ => rfl) (fun _ => rfl) (fun _ => rfl) rfl
    refine (only_log (fun _ => rfl) _ _).bind fun _ => ?_
    refine hupdate.bind fun result => ?_
    cases result with
    | error e => exact silent_persist.bind fun _ => only_pure _
    | ok pair =>
      refine silent_persist.bind fun written => ?_
      cases written with
      | error e => exact only_pure _
      | ok _ => exact only_pure _

theorem silent_tryDelete : (tryDelete settings m).Only Effect.Silent := by
  unfold tryDelete
  cases Scope.ofMachine settings m with
  | error e => exact only_pure _
  | ok s =>
    refine (only_log (fun _ => rfl) _ _).bind fun _ => ?_
    exact Lifecycle.only_delete (fun _ => rfl) s rfl rfl

/-! ### What is published in the end -/

variable {settings m}

theorem tells_reportFailure {α : Type} (action : MachineAction) (e : ControllerError) :
    (reportFailure m action e : Program (Except ControllerError α)).Tells Drift
      fun steps result => result = .error e ∧ published steps = [failureEvent m action e] ∧
        ∀ step ∈ steps, step.effect.SparesInfra := by
  intro env steps result env' h
  unfold reportFailure at h
  obtain ⟨logged, rest, -, rfl, hrest⟩ := h.of_effect_bind_done
  obtain ⟨before, nothing, -, rfl, hnothing⟩ := hrest.of_effect_bind_done
  obtain ⟨rfl, hresult, -⟩ := hnothing.of_done
  refine ⟨Program.done.inj hresult, rfl, ?_⟩
  simp only [List.forall_mem_cons]
  exact ⟨fun _ => rfl, fun _ => rfl, by simp⟩

theorem tells_reportSuccess (action : MachineAction) (done : String) :
    (do
      reportSuccess m action done
      pure (.ok ()) : Program (Except ControllerError Unit)).Tells Drift
      fun steps result => result = .ok () ∧ published steps = [successEvent m action done] ∧
        ∀ step ∈ steps, step.effect.SparesInfra := by
  intro env steps result env' h
  obtain ⟨before, rest, -, rfl, hrest⟩ := h.of_effect_bind_done
  obtain ⟨rfl, hresult, -⟩ := hrest.of_done
  exact ⟨Program.done.inj hresult, rfl, List.forall_mem_singleton.mpr fun _ => rfl⟩

end Operation

end Change

namespace Reporting

open Operation (failureEvent successEvent perform)
open UpdateRace (content Changes)

/-! ### One call -/

/-- A call of an operation on a machine that has come to its end, with the steps that it took. -/
structure Call where
  machine : Machine
  action : MachineAction
  steps : List Step
  result : Except ControllerError (Operation.Answer action)

instance (ns name : String) : DecidablePred (Changes ns name) := fun step =>
  inferInstanceAs (Decidable (content ns name step.after ≠ content ns name step.before))

instance (ns name : String) (steps : List Step) : Decidable (Changed ns name steps) :=
  inferInstanceAs (Decidable (∃ step ∈ steps, Changes ns name step))

/-- The events that are due for a call: a warning with the error if it has failed; its success if
it was to create or to delete, or if it was an update that has changed the virtual machine. -/
def Call.due (settings : Settings) : Call → List MachineEvent
  | ⟨m, action, _, .error e⟩ => [failureEvent m action e]
  | ⟨m, .create, _, .ok _⟩ => [successEvent m .create "Created"]
  | ⟨m, .update, steps, .ok _⟩ =>
    if Changed settings.infra.ns (m.metadata.name.getD "") steps then
      [successEvent m .update "Updated"]
    else []
  | ⟨m, .delete, _, .ok _⟩ => [successEvent m .delete "Deleted"]
  | ⟨_, .check, _, .ok _⟩ => []

/-- A program whose work is silent publishes what it reports in the end. -/
theorem published_of_bind {α β : Type} {Drift : Environment → Environment → Prop}
    {env env' : Environment} {p : Program α} {f : α → Program β} {steps : List Step} {b : β}
    (hsilent : p.Only Effect.Silent) (h : Course Drift env (p >>= f) steps (.done b) env') :
    ∃ a mid early late, steps = early ++ late ∧ published steps = published late ∧
      Course Drift env p early (.done a) mid ∧ Course Drift mid (f a) late (.done b) env' := by
  obtain ⟨a, mid, early, late, rfl, hearly, hlate⟩ := h.bind_done
  have hnone : published early = [] := published_of_silent (hearly.ensures hsilent).1
  refine ⟨a, mid, early, late, rfl, ?_, hearly, hlate⟩
  rw [published_append, hnone, List.nil_append]

variable {Drift : Environment → Environment → Prop} {settings : Settings} {env env' : Environment}

theorem published_create {m : Machine} {steps : List Step} {result : Except ControllerError Unit}
    (h : Course Drift env (Operation.create settings m) steps (.done result) env') :
    published steps = Call.due settings ⟨m, .create, steps, result⟩ := by
  unfold Operation.create at h
  obtain ⟨r, mid, early, late, rfl, hpublished, -, hlate⟩ :=
    published_of_bind (Operation.silent_tryCreate settings m) h
  rw [hpublished]
  cases r with
  | ok _ =>
    obtain ⟨rfl, hlate, -⟩ := Operation.tells_reportSuccess .create "Created" _ _ _ _ hlate
    exact hlate
  | error e =>
    obtain ⟨rfl, hlate, -⟩ := Operation.tells_reportFailure .create e _ _ _ _ hlate
    exact hlate

theorem published_update {m : Machine} {steps : List Step} {result : Except ControllerError Unit}
    (h : Course Drift env (Operation.update settings m) steps (.done result) env') :
    published steps = Call.due settings ⟨m, .update, steps, result⟩ := by
  unfold Operation.update at h
  obtain ⟨r, mid, early, late, rfl, hpublished, hearly, hlate⟩ :=
    published_of_bind (Operation.silent_tryUpdate settings m) h
  rw [hpublished]
  cases r with
  | error e =>
    obtain ⟨rfl, hlate, -⟩ := Operation.tells_reportFailure .update e _ _ _ _ hlate
    exact hlate
  | ok changed =>
    have htold := Operation.tells_change_tryUpdate settings m _ _ _ _ hearly changed rfl
    cases changed with
    | true =>
      obtain ⟨rfl, hlate, hspares⟩ := Operation.tells_reportSuccess .update "Updated" _ _ _ _ hlate
      have hchanged : Changed settings.infra.ns (m.metadata.name.getD "") (early ++ late) :=
        (changed_append_iff hspares).mpr (htold.mp rfl)
      rw [hlate]
      exact (if_pos hchanged).symm
    | false =>
      obtain ⟨rfl, hresult, -⟩ := hlate.of_done
      obtain rfl := Program.done.inj hresult
      have hunchanged : ¬ Changed settings.infra.ns (m.metadata.name.getD "") (early ++ []) := by
        rw [List.append_nil, ← htold]
        simp
      exact (if_neg hunchanged).symm

theorem published_delete {m : Machine} {steps : List Step} {result : Except ControllerError Unit}
    (h : Course Drift env (Operation.delete settings m) steps (.done result) env') :
    published steps = Call.due settings ⟨m, .delete, steps, result⟩ := by
  unfold Operation.delete at h
  obtain ⟨r, mid, early, late, rfl, hpublished, -, hlate⟩ :=
    published_of_bind (Operation.silent_tryDelete settings m) h
  rw [hpublished]
  cases r with
  | ok _ =>
    obtain ⟨rfl, hlate, -⟩ := Operation.tells_reportSuccess .delete "Deleted" _ _ _ _ hlate
    exact hlate
  | error e =>
    obtain ⟨rfl, hlate, -⟩ := Operation.tells_reportFailure .delete e _ _ _ _ hlate
    exact hlate

theorem published_exists? {m : Machine} {steps : List Step}
    {result : Except ControllerError Bool}
    (h : Course Drift env (Operation.exists? settings m) steps (.done result) env') :
    published steps = Call.due settings ⟨m, .check, steps, result⟩ := by
  have hlook : (Lifecycle.exists? m.metadata.displayName settings.infra.ns).Only Effect.Silent :=
    Lifecycle.only_exists? (fun _ => rfl) rfl
  unfold Operation.exists? at h
  obtain ⟨logged, rest, -, rfl, hrest⟩ := h.of_effect_bind_done
  obtain ⟨r, mid, early, late, rfl, hpublished, -, hlate⟩ := published_of_bind hlook hrest
  refine Eq.trans (show _ = published (early ++ late) from rfl) ?_
  rw [hpublished]
  cases r with
  | ok found =>
    obtain ⟨rfl, hresult, -⟩ := hlate.of_done
    obtain rfl := Program.done.inj hresult
    rfl
  | error e =>
    obtain ⟨rfl, hlate, -⟩ := Operation.tells_reportFailure .check e _ _ _ _ hlate
    exact hlate

theorem Call.published_eq {call : Call}
    (h : Course Drift env (perform settings call.machine call.action) call.steps
      (.done call.result) env') : published call.steps = call.due settings := by
  obtain ⟨m, action, steps, result⟩ := call
  cases action with
  | create => exact published_create h
  | update => exact published_update h
  | delete => exact published_delete h
  | check => exact published_exists? h

/-! ### Runs -/

/-- The surroundings change anything but the events. -/
def Elsewhere (env env' : Environment) : Prop := env'.events = env.events

theorem events_of_course {α : Type} {p q : Program α} {steps : List Step}
    (h : Course Elsewhere env p steps q env') : env'.events = env.events ++ published steps := by
  induction h with
  | stopped => exact (List.append_nil _).symm
  | @drifted env mid env' p q steps drift _ ih =>
    have hsame : mid.events = env.events := drift
    rw [ih, hsame]
  | @performed env env' e next q steps _ ih =>
    rw [ih, Step.events_after, List.append_assoc]
    rfl

/-- Calls one after another, while the clusters change and calls of them fail in any way. -/
inductive Run (settings : Settings) : Environment → List Call → Environment → Prop
  | none {env : Environment} : Run settings env [] env
  | call {env mid env' : Environment} {call : Call} {calls : List Call}
      (course : Course Elsewhere env (perform settings call.machine call.action) call.steps
        (.done call.result) mid)
      (rest : Run settings mid calls env') : Run settings env (call :: calls) env'

/-- A call that nobody interferes with. -/
def Call.alone (settings : Settings) (env : Environment) (m : Machine) (action : MachineAction) :
    Call where
  machine := m
  action := action
  steps := (perform settings m action).steps env
  result := (env.run .memory (perform settings m action)).1

/-- Calls one after another that nobody interferes with. -/
def inTurn (settings : Settings) : Environment → List (Machine × MachineAction) → List Call
  | _, [] => []
  | env, (m, action) :: rest =>
    Call.alone settings env m action ::
      inTurn settings (env.run .memory (perform settings m action)).2 rest

theorem exists_run_inTurn (settings : Settings) (env : Environment)
    (operations : List (Machine × MachineAction)) :
    ∃ env', Run settings env (inTurn settings env operations) env' := by
  induction operations generalizing env with
  | nil => exact ⟨env, .none⟩
  | cons operation rest ih =>
    obtain ⟨m, action⟩ := operation
    obtain ⟨env', hrest⟩ := ih (env.run .memory (perform settings m action)).2
    exact ⟨env', .call (Course.of_steps _ _ _) hrest⟩

/-- In every run of operations on any machines, whatever else happens to the clusters and whichever
calls of them fail, every call publishes what is due for it, and nothing else is published. -/
theorem events_report_outcomes {calls : List Call} (h : Run settings env calls env') :
    (∀ call ∈ calls, published call.steps = call.due settings) ∧
      env'.events = env.events ++ calls.flatMap (Call.due settings) := by
  induction h with
  | none => exact ⟨by simp, (List.append_nil _).symm⟩
  | @call env mid env' call calls course _ ih =>
    have hcall : published call.steps = call.due settings := Call.published_eq course
    obtain ⟨hcalls, hevents⟩ := ih
    refine ⟨List.forall_mem_cons.mpr ⟨hcall, hcalls⟩, ?_⟩
    rw [hevents, events_of_course course, hcall, List.flatMap_cons, List.append_assoc]

open UpdateLoop (workerStart) in
/-- The virtual machine of the worker is brought in line, found to be so, looked up and deleted;
then it is missing, and so is the payload to create it with. -/
theorem events_report_outcomes_worker :
    ∃ env, Run Operation.smallSettings workerStart (inTurn Operation.smallSettings workerStart
        ([.update, .update, .check, .delete, .update, .create].map (Machine.worker, ·))) env ∧
      env.events.map (·.reason) = ["Update", "Delete", "FailedUpdate", "FailedCreate"] := by
  obtain ⟨env, hrun⟩ := exists_run_inTurn Operation.smallSettings workerStart
    ([.update, .update, .check, .delete, .update, .create].map (Machine.worker, ·))
  obtain ⟨-, hevents⟩ := events_report_outcomes hrun
  refine ⟨env, hrun, ?_⟩
  rw [hevents]
  decide +kernel

end Reporting

end MachineActuator
