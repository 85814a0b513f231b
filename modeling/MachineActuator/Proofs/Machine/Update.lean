import Mathlib
import MachineActuator.Proofs.Machine.Persist
import MachineActuator.Proofs.Resource.Same

/-! # Updating a virtual machine

What updating a machine comes to when no call fails: the stored virtual machine takes over what
the machine asks for, if it differs (`Lifecycle.renewed`), the machine takes over what was observed
of it, and that is written back (`Operation.outcome_update`). -/

namespace MachineActuator

theorem InfraCluster.answer_of_healthy {c : InfraCluster} (h : ∀ o, c.failures o = none)
    (call : InfraCall) : c.answer call = c.perform call := by
  unfold answer
  rw [h]

theorem InfraCluster.answer_getVirtualMachine {c : InfraCluster} {ns name : String}
    {vm : VirtualMachine} (h : ∀ o, c.failures o = none)
    (hvm : c.virtualMachines ns name = some vm) :
    c.answer (.getVirtualMachine ns name) = (.ok vm, c) := by
  rw [answer_of_healthy h]
  simp only [perform, hvm, orNotFound]

theorem InfraCluster.answer_getInstance {c : InfraCluster} {ns name : String}
    {vmi : VirtualMachineInstance} (h : ∀ o, c.failures o = none)
    (hvmi : c.instances ns name = some vmi) :
    c.answer (.getInstance ns name) = (.ok vmi, c) := by
  rw [answer_of_healthy h]
  simp only [perform, hvmi, orNotFound]

namespace Lifecycle

open InfraCluster (differs replaced)

variable {env : Environment} {s : Scope} {vm desired : VirtualMachine}
  {vmi : VirtualMachineInstance}

/-- The stored machine once it was replaced by the derived one. -/
def renewed (desired vm : VirtualMachine) : VirtualMachine :=
  if differs desired vm then replaced desired vm else vm

/-- The virtual machine and the instance that are stored for a scope. -/
structure Observed (env : Environment) (s : Scope) (vm : VirtualMachine)
    (vmi : VirtualMachineInstance) : Prop where
  machine : env.infra.virtualMachines s.infraNs s.name = some vm
  name : vm.metadata.displayName = s.name
  ns : vm.metadata.ns.getD s.infraNs = s.infraNs
  running : env.infra.instances s.infraNs s.name = some vmi

/-- The instance is stored under the name that the virtual machine bears. -/
theorem Observed.named (h : Observed env s vm vmi) :
    env.infra.instances (vm.metadata.ns.getD s.infraNs) vm.metadata.displayName = some vmi := by
  rw [h.ns, h.name]
  exact h.running

/-! ### Renewed machines -/

theorem renewed_observedStatus (desired vm : VirtualMachine) :
    (renewed desired vm).observedStatus = vm.observedStatus := by
  unfold renewed
  split_ifs <;> rfl

theorem renewed_uid (desired vm : VirtualMachine) :
    (renewed desired vm).metadata.uid = vm.metadata.uid := by
  unfold renewed
  split_ifs <;> rfl

theorem renewed_displayName (desired vm : VirtualMachine) :
    (renewed desired vm).metadata.displayName = vm.metadata.displayName := by
  unfold renewed
  split_ifs <;> rfl

theorem renewed_ns (desired vm : VirtualMachine) :
    (renewed desired vm).metadata.ns = vm.metadata.ns := by
  unfold renewed
  split_ifs <;> rfl

theorem differs_of_eq {desired vm : VirtualMachine} (hspec : desired.spec = vm.spec)
    (hlabels : desired.metadata.labels = vm.metadata.labels)
    (hannotations : desired.metadata.annotations = vm.metadata.annotations) :
    differs desired vm = false := by
  simp [differs, hspec, hlabels, hannotations, VirtualMachineSpec.same_refl]

theorem differs_eq_false_iff {desired vm : VirtualMachine} (hplain : desired.spec.Plain) :
    differs desired vm = false ↔
      desired.spec = vm.spec ∧ desired.metadata.labels = vm.metadata.labels ∧
        desired.metadata.annotations = vm.metadata.annotations := by
  simp [differs, and_assoc, hplain.same_iff]

/-- What clients own of a renewed machine is what is derived. -/
theorem differs_renewed (desired vm : VirtualMachine) :
    differs desired (renewed desired vm) = false := by
  unfold renewed
  split_ifs with h
  · exact differs_of_eq rfl rfl rfl
  · exact Bool.eq_false_iff.mpr h

/-- The environment once the stored machine was replaced. -/
def renewedEnv (env : Environment) (s : Scope) (vm : VirtualMachine) : Environment :=
  { env with infra := { env.infra with
    virtualMachines := env.infra.virtualMachines.put s.infraNs s.name vm } }

theorem Observed.renewed (h : Observed env s vm vmi) (desired : VirtualMachine) :
    Observed (renewedEnv env s (renewed desired vm)) s (renewed desired vm) vmi :=
  ⟨Store.put_same _ _ _ _, (renewed_displayName _ _).trans h.name,
    (congrArg (·.getD s.infraNs) (renewed_ns _ _)).trans h.ns, h.running⟩

/-! ### Outcomes -/

theorem outcome_observe (action : MachineAction) (hup : env.Healthy)
    (hvmi : env.infra.instances (vm.metadata.ns.getD s.infraNs) vm.metadata.displayName =
      some vmi) :
    env.outcome (observe Scope.sync s vm action) =
      (.ok (s.synced vm vmi
        (providerIdOf (vm.metadata.ns.getD s.infraNs) vm.metadata.displayName)
        (env.hosts (vmi.metadata.name.getD ""))), env.unlogged) := by
  have hsync (id : String) : env.outcome (s.sync vm vmi id) =
      (.ok (s.synced vm vmi id (env.hosts (vmi.metadata.name.getD ""))), env.unlogged) := by
    unfold Scope.sync Scope.logProviderId
    split_ifs
    all_goals
      refine (Environment.outcome_bind (Environment.outcome_log _ _) _).trans ?_
      refine (Environment.outcome_bind (Environment.outcome_log _ _) _).trans ?_
      refine (Environment.outcome_bind (Environment.outcome_resolve _) _).trans ?_
      exact Environment.outcome_bind (Environment.outcome_log _ _) _
  unfold observe
  refine (Environment.outcome_bind (Environment.outcome_infra
    (InfraCluster.answer_getInstance hup.infra hvmi)) _).trans ?_
  exact Environment.outcome_bind (hsync _) _

theorem outcome_observed (action : MachineAction) (hup : env.Healthy) (h : Observed env s vm vmi) :
    env.outcome (observe Scope.sync s vm action) =
      (.ok (s.synced vm vmi (providerIdOf s.infraNs s.name)
        (env.hosts (vmi.metadata.name.getD ""))), env.unlogged) := by
  rw [outcome_observe action hup h.named, h.ns, h.name]

theorem answer_updateVirtualMachine (hup : env.Healthy)
    (hvm : env.infra.virtualMachines s.infraNs s.name = some vm)
    (hname : desired.metadata.name = some s.name) :
    env.infra.answer (.updateVirtualMachine s.infraNs (replacement desired vm)) =
      (.ok (renewed desired vm), { env.infra with
        virtualMachines :=
          env.infra.virtualMachines.put s.infraNs s.name (renewed desired vm) }) := by
  have hkey : (replacement desired vm).metadata.name.getD "" = s.name := by
    simp [replacement, hname]
  rw [InfraCluster.answer_of_healthy hup.infra]
  simp only [InfraCluster.perform, InfraCluster.updateVirtualMachine, hkey, hvm]
  rw [if_neg (by simp [replacement])]
  unfold renewed
  rw [show differs (replacement desired vm) vm = differs desired vm from rfl]
  split_ifs
  · rfl
  · rw [Store.put_of_eq_some hvm]

/-- What an update comes to.  The instance is looked up under the name that the stored machine
bears, whatever place it is stored in. -/
theorem outcome_update_of_instance (hup : env.Healthy) (hvm : s.virtualMachine = .ok desired)
    (hstored : env.infra.virtualMachines s.infraNs s.name = some vm)
    (hvmi : env.infra.instances (vm.metadata.ns.getD s.infraNs) vm.metadata.displayName =
      some vmi) :
    env.outcome (update Scope.sync s) =
      (.ok (vm.metadata.resourceVersion ≠ (renewed desired vm).metadata.resourceVersion,
        s.synced (renewed desired vm) vmi
          (providerIdOf (vm.metadata.ns.getD s.infraNs) vm.metadata.displayName)
          (env.hosts (vmi.metadata.name.getD ""))),
        (renewedEnv env s (renewed desired vm)).unlogged) := by
  have hname := Scope.name_of_virtualMachine hvm
  have hrenewedUp : (renewedEnv env s (renewed desired vm)).Healthy := ⟨hup.infra, hup.tenant⟩
  unfold update
  rw [hvm]
  dsimp only
  rw [ObjectMeta.displayName_of_name hname]
  refine (Environment.outcome_bind (Environment.outcome_infra
    (InfraCluster.answer_getVirtualMachine hup.infra hstored)) _).trans ?_
  unfold replace
  refine (Environment.outcome_bind (Environment.outcome_infra
    (answer_updateVirtualMachine hup hstored hname)) _).trans ?_
  refine (Environment.outcome_bind (Environment.outcome_log _ _) _).trans ?_
  rw [← renewed_ns desired, ← renewed_displayName desired] at hvmi ⊢
  exact Environment.outcome_bind (outcome_observe .update hrenewedUp hvmi) _

theorem outcome_update (hup : env.Healthy) (h : Observed env s vm vmi)
    (hvm : s.virtualMachine = .ok desired) :
    env.outcome (update Scope.sync s) =
      (.ok (vm.metadata.resourceVersion ≠ (renewed desired vm).metadata.resourceVersion,
        s.synced (renewed desired vm) vmi (providerIdOf s.infraNs s.name)
          (env.hosts (vmi.metadata.name.getD ""))),
        (renewedEnv env s (renewed desired vm)).unlogged) := by
  rw [outcome_update_of_instance hup hvm h.machine h.named, h.ns, h.name]

end Lifecycle

namespace Operation

open Lifecycle (Observed renewed renewedEnv)

variable {env after : Environment} {settings : Settings} {m : Machine} {s : Scope}
  {vm desired : VirtualMachine} {vmi : VirtualMachineInstance}

/-- The machine once it took over what was observed after the renewal. -/
def wanted (env : Environment) (s : Scope) (vm : VirtualMachine) (vmi : VirtualMachineInstance) :
    Machine :=
  Scope.syncedMachine s.machine vm vmi (providerIdOf s.infraNs s.name)
    (env.hosts (vmi.metadata.name.getD ""))

/-- A machine that took over what was observed is written back in place of the one that was
read. -/
theorem outcome_persist_synced {ns name : String} (action : MachineAction) (vm : VirtualMachine)
    (vmi : VirtualMachineInstance) (providerId : String) (ips : List Ipv4) (hup : env.Healthy)
    (hnow : env.now.Valid) (hwf : m.WellFormed) (hname : m.metadata.name = some name)
    (hns : m.metadata.ns.getD "" = ns) (hstored : env.tenant.machines ns name = some m) :
    ∃ c r, env.outcome (persist m (Scope.syncedMachine m vm vmi providerId ips) action) =
        (.ok (), { env with tenant := c : Environment }.unlogged) ∧
      Persisted m (Scope.syncedMachine m vm vmi providerId ips) ⟨vm.observedStatus⟩ env.tenant c r ∧
      c = { env.tenant with
        machines := env.tenant.machines.put ns name r
        machinePatches := c.machinePatches
        statusPatches := c.statusPatches } := by
  have hdisplay : m.metadata.displayName = name := ObjectMeta.displayName_of_name hname
  have hplace : env.tenant.machines
      ((Scope.syncedMachine m vm vmi providerId ips).metadata.ns.getD "")
      (Scope.syncedMachine m vm vmi providerId ips).metadata.displayName = some m := by
    change env.tenant.machines (m.metadata.ns.getD "") m.metadata.displayName = some m
    rw [hns, hdisplay, hstored]
  have hdocument : ((Scope.syncedMachine m vm vmi providerId ips).status.getD {}).providerStatus =
      some (ProviderStatus.toJson ⟨vm.observedStatus⟩) := rfl
  obtain ⟨c, r, hpersist, hr⟩ := outcome_persist action hup hnow hwf hplace hdocument
  refine ⟨c, r, hpersist, hr, ?_⟩
  rw [← hns, ← hdisplay]
  exact hr.stored

def successEvent (machine : Machine) (action : MachineAction) (done : String) : MachineEvent where
  machine := machine
  severity := .normal
  action := action
  reason := action.reason
  note := done ++ " Machine " ++ machine.metadata.displayName

theorem outcome_reportSuccess (machine : Machine) (action : MachineAction) (done : String) :
    env.outcome (reportSuccess machine action done) =
      ((), { env with events := env.events ++ [successEvent machine action done]
        : Environment }.unlogged) := Environment.outcome_publish _

/-- What an update comes to, given what writing back comes to. -/
theorem outcome_update (hup : env.Healthy) (hscope : Scope.ofMachine settings m = .ok s)
    (hvm : s.virtualMachine = .ok desired) (hobserved : Observed env s vm vmi)
    (hpersist : (renewedEnv env s (renewed desired vm)).outcome
      (persist m (wanted env s (renewed desired vm) vmi) .update) = (.ok (), after.unlogged)) :
    ∃ reported, env.outcome (update settings m) =
        (.ok (), { after with events := after.events ++ reported : Environment }.unlogged) ∧
      (vm.metadata.resourceVersion = (renewed desired vm).metadata.resourceVersion →
        reported = []) := by
  have htry : env.outcome (tryUpdate settings m) =
      (.ok (decide (vm.metadata.resourceVersion ≠
        (renewed desired vm).metadata.resourceVersion)), after.unlogged) := by
    unfold tryUpdate
    rw [hscope]
    refine (Environment.outcome_bind (Environment.outcome_log _ _) _).trans ?_
    refine (Environment.outcome_bind (Lifecycle.outcome_update hup hobserved hvm) _).trans ?_
    exact Environment.outcome_bind hpersist _
  unfold update
  by_cases hversion :
    vm.metadata.resourceVersion = (renewed desired vm).metadata.resourceVersion
  · rw [decide_eq_false (not_not.mpr hversion)] at htry
    refine ⟨[], (Environment.outcome_bind htry _).trans ?_, fun _ => rfl⟩
    rw [List.append_nil]
    exact Environment.outcome_pure _
  · rw [decide_eq_true hversion] at htry
    refine ⟨[successEvent m .update "Updated"], (Environment.outcome_bind htry _).trans ?_,
      fun h => absurd h hversion⟩
    exact Environment.outcome_bind (outcome_reportSuccess _ _ _) _

end Operation

end MachineActuator
