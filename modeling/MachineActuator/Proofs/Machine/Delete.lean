import Mathlib
import MachineActuator.Proofs.Cluster.Answer
import MachineActuator.Proofs.Machine.Create

/-! # Deleting what is not there

A virtual machine that is absent counts as deleted (`Lifecycle.outcome_delete_absent`).  Deleting a
machine begins with its scope all the same, so of the machines without a virtual machine those with
a scope can be deleted, and no others (`Operation.run_delete_absent`). -/

namespace MachineActuator

/-- A machine has a scope if it is labelled with its cluster and its provider specification can be
read. -/
def Machine.HasScope (m : Machine) : Prop :=
  Scope.clusterId m ≠ "" ∧
    ∃ providerSpec, ProviderSpec.ofDocument? m.spec.providerSpec = some providerSpec

namespace Scope

variable (settings : Settings) {m : Machine}

theorem exists_ofMachine (h : m.HasScope) : ∃ s, ofMachine settings m = .ok s := by
  obtain ⟨hid, providerSpec, hspec⟩ := h
  refine ⟨{ machine := m, providerSpec, settings }, ?_⟩
  unfold ofMachine
  simp only [if_neg hid, hspec]

theorem exists_error_ofMachine (h : ¬ m.HasScope) :
    ∃ e, ofMachine settings m = .error e ∧ e.isInvalidConfig = true := by
  unfold ofMachine
  dsimp only
  split_ifs with hid
  · exact ⟨_, rfl, rfl⟩
  · cases hspec : ProviderSpec.ofDocument? m.spec.providerSpec with
    | none => exact ⟨_, rfl, rfl⟩
    | some providerSpec => exact absurd ⟨hid, providerSpec, hspec⟩ h

end Scope

variable {env : Environment} {settings : Settings} {m : Machine}

theorem Lifecycle.outcome_delete_absent {s : Scope}
    (hup : env.infra.failures .getVirtualMachine = none)
    (hnone : env.infra.virtualMachines s.infraNs s.name = none) :
    env.outcome (delete s) = (.ok (), env.unlogged) := by
  have hanswer := InfraCluster.answer_getVirtualMachine_absent hup hnone
  unfold delete
  refine (Environment.outcome_bind (Environment.outcome_infra hanswer) _).trans ?_
  exact Environment.outcome_bind (Environment.outcome_log _ _) _

namespace Operation

def failureEvent (machine : Machine) (action : MachineAction) (e : ControllerError) :
    MachineEvent where
  machine := machine
  severity := .warning
  action := action
  reason := action.failedReason
  note := machine.metadata.displayName ++ ": kubevirt wrapper failed to " ++ action.describe ++
    ": " ++ e.message

theorem outcome_reportFailure {α : Type} (m : Machine) (action : MachineAction)
    (e : ControllerError) :
    env.outcome (reportFailure m action e : Program (Except ControllerError α)) =
      (.error e, { env with events := env.events ++ [failureEvent m action e]
        : Environment }.unlogged) := by
  unfold reportFailure
  refine (Environment.outcome_bind (Environment.outcome_log _ _) _).trans ?_
  exact Environment.outcome_bind (Environment.outcome_publish _) _

theorem outcome_tryDelete_absent (hup : env.infra.failures .getVirtualMachine = none)
    (hnone : env.infra.virtualMachines settings.infra.ns (m.metadata.name.getD "") = none) :
    env.outcome (tryDelete settings m) =
      ((Scope.ofMachine settings m).map fun _ => (), env.unlogged) := by
  unfold tryDelete
  cases hscope : Scope.ofMachine settings m with
  | error e => rfl
  | ok s =>
    obtain ⟨rfl, rfl⟩ := Scope.eq_of_ofMachine hscope
    refine (Environment.outcome_bind (Environment.outcome_log _ _) _).trans ?_
    exact Lifecycle.outcome_delete_absent hup hnone

end Operation

theorem Machine.run_cleanup {result : Except ControllerError Unit} {env' : Environment}
    (h : env.run .memory (Operation.delete settings m) = (result, env')) :
    env.run .memory (cleanup settings m) = (result.map fun _ => .awaitChange, env') := by
  unfold cleanup Environment.run at *
  rw [Program.bind_eq_bind, Program.run_bind, h]
  cases result with
  | error e => rfl
  | ok _ => rfl

namespace Operation

/-- A named machine without a virtual machine can be deleted, and its clean-up succeeds, if it has a
scope.  If it has none, both report what is wrong with its configuration.  The clusters stay as they
are. -/
theorem run_delete_absent {name : String} (hname : m.metadata.name = some name)
    (hup : env.infra.failures .getVirtualMachine = none)
    (hnone : env.infra.virtualMachines settings.infra.ns name = none) :
    (m.HasScope → ∃ log,
      let env' := { env with events := env.events ++ [successEvent m .delete "Deleted"], log }
      env.run .memory (delete settings m) = (.ok (), env') ∧
        env.run .memory (Machine.cleanup settings m) = (.ok .awaitChange, env')) ∧
    (¬ m.HasScope → ∃ e log,
      let env' := { env with events := env.events ++ [failureEvent m .delete e], log }
      Scope.ofMachine settings m = .error e ∧ e.isInvalidConfig = true ∧
        env.run .memory (delete settings m) = (.error e, env') ∧
        env.run .memory (Machine.cleanup settings m) = (.error e, env')) := by
  have hkey : env.infra.virtualMachines settings.infra.ns (m.metadata.name.getD "") = none := by
    rw [hname]
    exact hnone
  have htry := outcome_tryDelete_absent hup hkey
  constructor
  · intro hscoped
    obtain ⟨s, hscope⟩ := Scope.exists_ofMachine settings hscoped
    rw [hscope] at htry
    have hdelete : env.outcome (delete settings m) =
        (.ok (), { env with events := env.events ++ [successEvent m .delete "Deleted"]
          : Environment }.unlogged) := by
      unfold delete
      refine (Environment.outcome_bind htry _).trans ?_
      exact Environment.outcome_bind (outcome_reportSuccess _ _ _) _
    obtain ⟨log, hrun⟩ := Environment.exists_log_of_outcome hdelete
    exact ⟨log, hrun, Machine.run_cleanup hrun⟩
  · intro hscoped
    obtain ⟨e, hscope, hinvalid⟩ := Scope.exists_error_ofMachine settings hscoped
    rw [hscope] at htry
    have hdelete : env.outcome (delete settings m) =
        (.error e, { env with events := env.events ++ [failureEvent m .delete e]
          : Environment }.unlogged) := by
      unfold delete
      refine (Environment.outcome_bind htry _).trans ?_
      exact outcome_reportFailure m .delete e
    obtain ⟨log, hrun⟩ := Environment.exists_log_of_outcome hdelete
    exact ⟨e, log, hscope, hinvalid, hrun, Machine.run_cleanup hrun⟩

/-- The small machine can be deleted where there is no virtual machine. -/
theorem run_delete_absent_worker : ∃ log,
    let env : Environment := { now := ⟨0, 0⟩ }
    let env' := { env with
      events := [successEvent Machine.worker .delete "Deleted"], log }
    env.run .memory (delete ⟨⟨"infra", "c"⟩, {}⟩ Machine.worker) = (.ok (), env') ∧
      env.run .memory (Machine.cleanup ⟨⟨"infra", "c"⟩, {}⟩ Machine.worker) =
        (.ok .awaitChange, env') :=
  (@run_delete_absent { now := ⟨0, 0⟩ } ⟨⟨"infra", "c"⟩, {}⟩ Machine.worker "worker"
    rfl rfl rfl).1 ⟨by decide, _, rfl⟩

/-- The small machine without its labels cannot be deleted, though there is no virtual machine. -/
theorem run_delete_absent_unlabelled :
    let env : Environment := { now := ⟨0, 0⟩ }
    let m := { Machine.worker with metadata := { Machine.worker.metadata with labels := none } }
    m.metadata.name = some "worker" ∧ env.infra.failures .getVirtualMachine = none ∧
      env.infra.virtualMachines "infra" "worker" = none ∧
      (env.run .memory (delete ⟨⟨"infra", "c"⟩, {}⟩ m)).1 ≠ .ok () ∧
      ((env.run .memory (delete ⟨⟨"infra", "c"⟩, {}⟩ m)).2.events.map (·.severity)) =
        [.warning] := by
  refine ⟨rfl, rfl, rfl, ?_, rfl⟩
  intro h
  cases h

end Operation

end MachineActuator
