import Mathlib
import MachineActuator.Proofs.Machine.Update
import MachineActuator.Proofs.Machine.Effects
import MachineActuator.Proofs.Cluster.Answer
import MachineActuator.Proofs.Cluster.Frame
import MachineActuator.Proofs.Course

/-! # Virtual machines that stay

A virtual machine is created or replaced by one call, and nothing that the operation asks for later
changes the infrastructure cluster.  So where dealing with the virtual machine succeeds, it is
stored as it is derived, and is not touched again (`Stays`). -/

namespace MachineActuator

open Program (only_pure only_effect)

/-! ### The virtual machine is there to stay -/

namespace InfraCluster

variable {c : InfraCluster} {ns name : String} {vm : VirtualMachine}

theorem stored_of_update {updated : VirtualMachine} (hname : vm.metadata.name = some name)
    (h : (c.answer (.updateVirtualMachine ns vm)).1 = .ok updated) :
    (c.answer (.updateVirtualMachine ns vm)).2.virtualMachines ns name = some updated := by
  obtain ⟨e, he⟩ | ⟨stored, _, -, -, hok, hafter, -⟩ := c.answer_updateVirtualMachine_cases ns vm
  · rw [he] at h
    cases h
  · obtain rfl := Except.ok.inj (hok.symm.trans h)
    rwa [hname, Option.getD_some] at hafter

theorem owned_of_update {updated : VirtualMachine} (hplain : vm.spec.Plain)
    (h : (c.answer (.updateVirtualMachine ns vm)).1 = .ok updated) :
    updated.spec = vm.spec ∧ updated.metadata.labels = vm.metadata.labels ∧
      updated.metadata.annotations = vm.metadata.annotations := by
  obtain ⟨e, he⟩ | ⟨stored, _, -, -, hok, -, hupdated⟩ :=
    c.answer_updateVirtualMachine_cases ns vm
  · rw [he] at h
    cases h
  · obtain rfl := Except.ok.inj (hok.symm.trans h)
    obtain ⟨hsame, rfl⟩ | ⟨-, rfl⟩ := hupdated
    · obtain ⟨hspec, hlabels, hannotations⟩ := (Lifecycle.differs_eq_false_iff hplain).mp hsame
      exact ⟨hspec.symm, hlabels.symm, hannotations.symm⟩
    · exact ⟨rfl, rfl, rfl⟩

end InfraCluster

/-- After the step the virtual machine of the scope is stored as it is derived. -/
def Provides (s : Scope) (step : Step) : Prop :=
  ∃ desired vm, s.virtualMachine = .ok desired ∧
    step.after.infra.virtualMachines s.infraNs s.name = some vm ∧ vm.spec = desired.spec ∧
    vm.metadata.labels = desired.metadata.labels ∧
    vm.metadata.annotations = desired.metadata.annotations

/-- One of the steps provides the virtual machine, and no later one changes the infrastructure. -/
def Stays (s : Scope) (steps : List Step) : Prop :=
  ∃ early step late, steps = early ++ step :: late ∧ Provides s step ∧
    ∀ later ∈ late, later.after.infra = later.before.infra

section Stays

variable {α β : Type} {Drift : Environment → Environment → Prop} {s : Scope}

theorem Stays.append {steps late : List Step} (h : Stays s steps)
    (hlate : ∀ step ∈ late, step.effect.SparesInfra) : Stays s (steps ++ late) := by
  obtain ⟨early, step, rest, rfl, hprovides, hrest⟩ := h
  refine ⟨early, step, rest ++ late, by simp, hprovides, fun later hlater => ?_⟩
  obtain hlater | hlater := List.mem_append.mp hlater
  · exact hrest later hlater
  · exact hlate later hlater later.before

theorem Stays.prepend {steps early : List Step} (h : Stays s steps) : Stays s (early ++ steps) := by
  obtain ⟨first, step, rest, rfl, hprovides, hrest⟩ := h
  exact ⟨early ++ first, step, rest, by simp, hprovides, hrest⟩

/-- The virtual machine is there to stay if there is no error. -/
def StaysIfOk (s : Scope) (steps : List Step) (result : Except ControllerError α) : Prop :=
  ∀ a, result = .ok a → Stays s steps

theorem tells_stays_error {p : Program (Except ControllerError α)}
    (hp : p.Ensures (fun _ => True) fun r => ∃ e, r = .error e) :
    p.Tells Drift (StaysIfOk s) := by
  refine hp.tells.mono ?_
  rintro steps result ⟨-, e, rfl⟩ a ha
  cases ha

theorem tells_stays_after {p : Program α} {f : α → Program (Except ControllerError β)}
    (hf : ∀ a, (f a).Tells Drift (StaysIfOk s)) : (p >>= f).Tells Drift (StaysIfOk s) := by
  refine (Program.Tells.bind p.only_true.tells hf).mono ?_
  rintro steps result ⟨early, late, a, rfl, -, hlate⟩ b hb
  exact (hlate b hb).prepend

theorem tells_stays_then {p : Program (Except ControllerError α)}
    {f : Except ControllerError α → Program (Except ControllerError β)}
    (hp : p.Tells Drift (StaysIfOk s)) (herror : ∀ e, f (.error e) = pure (.error e))
    (hok : ∀ a, (f (.ok a)).Only Effect.SparesInfra) : (p >>= f).Tells Drift (StaysIfOk s) := by
  intro env steps result env' h b hb
  obtain ⟨r, mid, early, late, rfl, hearly, hlate⟩ := h.bind_done
  cases r with
  | error e =>
    rw [herror] at hlate
    obtain ⟨-, hresult, -⟩ := hlate.of_done
    obtain rfl := Program.done.inj hresult
    cases hb
  | ok a => exact (hp _ _ _ _ hearly a rfl).append (hlate.ensures (hok a)).1

/-- A call that provides the virtual machine if it succeeds, and what follows it. -/
theorem tells_stays_infra {call : InfraCall}
    {f : Except ClientError call.Result → Program (Except ControllerError α)}
    (hprovides : ∀ before a, (before.infra.answer call).1 = .ok a →
      Provides s ⟨.infra call, before⟩)
    (hrefused : ∀ cause, (f (.error cause)).Ensures (fun _ => True) fun r => ∃ e, r = .error e)
    (hanswered : ∀ a, (f (.ok a)).Only Effect.SparesInfra) :
    (Program.infra call >>= f).Tells Drift (StaysIfOk s) := by
  intro env steps result env' h b hb
  obtain ⟨-, hq, -⟩ | ⟨before, rest, -, rfl, hrest⟩ := h.of_effect_bind
  · simp [Program.effect] at hq
  cases hanswer : (before.infra.answer call).1 with
  | error cause =>
    rw [show (Step.mk (.infra call) before).answer = .error cause from hanswer] at hrest
    obtain ⟨e, rfl⟩ := (hrest.ensures (hrefused cause)).2
    cases hb
  | ok a =>
    rw [show (Step.mk (.infra call) before).answer = .ok a from hanswer] at hrest
    have hlate := (hrest.ensures (hanswered a)).1
    exact ⟨[], _, rest, rfl, hprovides before a hanswer, fun later hlater =>
      hlate later hlater later.before⟩

end Stays

namespace Lifecycle

variable {Drift : Environment → Environment → Prop} {s : Scope}

theorem errs_stepFailed {α : Type} (machine : String) (action : MachineAction) (what : String)
    (source : ControllerError) :
    (stepFailed machine action what source : Program (Except ControllerError α)).Ensures
      (fun _ => True) fun r => ∃ e, r = .error e :=
  ensures_stepFailed (fun _ => trivial) (fun e => ⟨e, rfl⟩) _ _ _ _

theorem sparesInfra_observe (vm : VirtualMachine) (action : MachineAction) :
    (observe Scope.sync s vm action).Only Effect.SparesInfra :=
  (ensures_observe (fun _ _ => rfl) s (fun _ _ => rfl) vm
    (fun _ => InfraCluster.answer_getInstance_snd) action).only

theorem tells_stays_create (bytes : ByteArray) :
    (create Scope.sync s bytes).Tells Drift (StaysIfOk s) := by
  unfold create
  cases Payload.addHostname bytes s.name with
  | error cause => exact tells_stays_error (errs_stepFailed _ _ _ _)
  | ok payload =>
    refine tells_stays_after fun result => ?_
    cases result with
    | error e => exact tells_stays_error (Program.ensures_pure ⟨e, rfl⟩)
    | ok _ =>
      dsimp only
      cases hvm : s.virtualMachine with
      | error cause => exact tells_stays_error (errs_stepFailed _ _ _ _)
      | ok desired =>
        refine tells_stays_then ?_ (fun _ => rfl) fun created => sparesInfra_observe created _
        unfold createVm
        refine tells_stays_infra (fun before created hcreated => ?_)
          (fun cause => errs_stepFailed _ _ _ _) fun created => ⟨fun _ => rfl, fun _ => trivial⟩
        obtain ⟨-, mode, -, rfl⟩ := Scope.virtualMachine_eq_ok_iff.mp hvm
        obtain ⟨-, rfl, hstored, -⟩ :=
          InfraCluster.answer_createVirtualMachine_ok (show _ = some s.name from rfl) hcreated
        exact ⟨_, _, hvm, hstored, rfl, rfl, rfl⟩

theorem tells_stays_update : (update Scope.sync s).Tells Drift (StaysIfOk s) := by
  unfold update
  cases hvm : s.virtualMachine with
  | error cause => exact tells_stays_error (errs_stepFailed _ _ _ _)
  | ok desired =>
    refine tells_stays_after fun answer => ?_
    cases answer with
    | error cause =>
      dsimp only
      split_ifs
      · exact tells_stays_error ⟨trivial, fun _ => ⟨trivial, fun _ => ⟨_, rfl⟩⟩⟩
      · exact tells_stays_error (errs_stepFailed _ _ _ _)
    | ok existing =>
      dsimp only
      unfold replace
      refine tells_stays_infra (fun before updated hupdated => ?_)
        (fun cause => errs_stepFailed _ _ _ _) fun updated => ?_
      · obtain ⟨-, mode, -, rfl⟩ := Scope.virtualMachine_eq_ok_iff.mp hvm
        have hplain : (replacement (s.virtualMachineWith mode) existing).spec.Plain :=
          s.plain_virtualMachineWith mode
        have hstored := InfraCluster.stored_of_update (show _ = some s.name from rfl) hupdated
        obtain ⟨hspec, hlabels, hannotations⟩ := InfraCluster.owned_of_update hplain hupdated
        exact ⟨_, _, hvm, hstored, hspec, hlabels, hannotations⟩
      · refine Program.Only.bind (only_effect fun _ => rfl) fun _ => ?_
        refine (sparesInfra_observe updated .update).bind fun result => ?_
        cases result with
        | error e => exact only_pure _
        | ok synced => exact only_pure _

end Lifecycle

end MachineActuator
