import Mathlib
import MachineActuator.Control.Reconcile
import MachineActuator.Proofs.Machine.Update

/-! # Creating a virtual machine

What creating the virtual machine of a machine comes to when no call fails and there is none yet:
a secret that is left over is kept, the cluster admits what the machine asks for together with an
instance, and the machine takes over what was observed (`Operation.outcome_create`).  Applying a
machine is creating or updating, whichever its virtual machine calls for
(`Machine.outcome_apply_create`, `Machine.outcome_apply_update`). -/

namespace MachineActuator

namespace InfraCluster

/-- The secrets once this one was put in place; one that is there already is kept. -/
def ensured (c : InfraCluster) (ns : String) (secret : Secret) : Store Secret :=
  match c.secrets ns (secret.metadata.name.getD "") with
  | some _ => c.secrets
  | none => c.secrets.put ns (secret.metadata.name.getD "") secret

theorem answer_createSecret {c : InfraCluster} (h : ∀ o, c.failures o = none) (ns : String)
    (secret : Secret) :
    ∃ result, c.answer (.createSecret ns secret) =
        (result, { c with secrets := c.ensured ns secret }) ∧
      ∀ e, result = .error e → e.isAlreadyExists = true := by
  rw [answer_of_healthy h]
  simp only [perform, createSecret, ensured]
  cases c.secrets ns (secret.metadata.name.getD "") with
  | some kept =>
    refine ⟨_, rfl, ?_⟩
    intro e he
    rw [← Except.error.inj he]
    rfl
  | none => exact ⟨.ok secret, rfl, fun e he => by simp at he⟩

theorem answer_createVirtualMachine {c : InfraCluster} {ns name : String} {vm : VirtualMachine}
    (h : ∀ o, c.failures o = none) (hspawns : c.spawnsInstances = true)
    (hname : vm.metadata.name = some name) (hnone : c.virtualMachines ns name = none) :
    c.answer (.createVirtualMachine ns vm) =
      (.ok (c.admitted ns vm), { c with
        virtualMachines := c.virtualMachines.put ns name (c.admitted ns vm)
        instances := c.instances.put ns name (spawned ns name (c.admitted ns vm))
        nextUid := c.nextUid + 1 }) := by
  rw [answer_of_healthy h]
  simp only [perform, createVirtualMachine, hname, Option.getD_some, hnone, hspawns, if_true]

end InfraCluster

/-! ### The life of a virtual machine -/

namespace Lifecycle

open InfraCluster (spawned)

variable {env : Environment} {s : Scope} {vm : VirtualMachine}

/-- The environment once the secret is in place. -/
def ensuredEnv (env : Environment) (s : Scope) (payload : ByteArray) : Environment :=
  { env with infra := { env.infra with
    secrets := env.infra.ensured s.infraNs (s.ignitionSecret payload) } }

/-- The environment once the virtual machine is in place too, with its instance. -/
def createdEnv (env : Environment) (s : Scope) (payload : ByteArray) (vm : VirtualMachine) :
    Environment :=
  { env with infra := { (ensuredEnv env s payload).infra with
    virtualMachines := env.infra.virtualMachines.put s.infraNs s.name vm
    instances := env.infra.instances.put s.infraNs s.name (spawned s.infraNs s.name vm)
    nextUid := env.infra.nextUid + 1 } }

theorem outcome_ensureSecret (hup : env.Healthy) (payload : ByteArray) :
    env.outcome (ensureSecret s payload) = (.ok (), (ensuredEnv env s payload).unlogged) := by
  obtain ⟨result, hanswer, herror⟩ :=
    InfraCluster.answer_createSecret hup.infra s.infraNs (s.ignitionSecret payload)
  unfold ensureSecret
  refine (Environment.outcome_bind (Environment.outcome_infra hanswer) _).trans ?_
  cases result with
  | ok secret => exact Environment.outcome_pure _
  | error e =>
    dsimp only
    rw [if_pos (herror e rfl)]
    exact Environment.outcome_bind (Environment.outcome_log _ _) _

theorem outcome_createVm (hup : env.Healthy) (hspawns : env.infra.spawnsInstances = true)
    (hname : vm.metadata.name = some s.name)
    (hnone : env.infra.virtualMachines s.infraNs s.name = none) (payload : ByteArray) :
    (ensuredEnv env s payload).outcome (createVm s vm) =
      (.ok (env.infra.admitted s.infraNs vm),
        (createdEnv env s payload (env.infra.admitted s.infraNs vm)).unlogged) := by
  have hanswer : (ensuredEnv env s payload).infra.answer (.createVirtualMachine s.infraNs vm) =
      (.ok (env.infra.admitted s.infraNs vm),
        (createdEnv env s payload (env.infra.admitted s.infraNs vm)).infra) :=
    InfraCluster.answer_createVirtualMachine hup.infra hspawns hname hnone
  unfold createVm
  refine (Environment.outcome_bind (Environment.outcome_infra hanswer) _).trans ?_
  exact Environment.outcome_bind (Environment.outcome_log _ _) _

theorem outcome_create (hup : env.Healthy) (hspawns : env.infra.spawnsInstances = true)
    {desired : VirtualMachine} {bytes payload : ByteArray}
    (hpayload : Payload.addHostname bytes s.name = .ok payload)
    (hdesired : s.virtualMachine = .ok desired)
    (hnone : env.infra.virtualMachines s.infraNs s.name = none) :
    env.outcome (create Scope.sync s bytes) =
      (.ok (s.synced (env.infra.admitted s.infraNs desired)
        (spawned s.infraNs s.name (env.infra.admitted s.infraNs desired))
        (providerIdOf s.infraNs s.name) (env.hosts s.name)),
        (createdEnv env s payload (env.infra.admitted s.infraNs desired)).unlogged) := by
  have hcreated : Observed (createdEnv env s payload (env.infra.admitted s.infraNs desired)) s
      (env.infra.admitted s.infraNs desired)
      (spawned s.infraNs s.name (env.infra.admitted s.infraNs desired)) := by
    obtain ⟨-, mode, -, rfl⟩ := Scope.virtualMachine_eq_ok_iff.mp hdesired
    exact ⟨Store.put_same _ _ _ _, rfl, rfl, Store.put_same _ _ _ _⟩
  have hname : desired.metadata.name = some s.name := by
    obtain ⟨-, mode, -, rfl⟩ := Scope.virtualMachine_eq_ok_iff.mp hdesired
    rfl
  unfold create
  rw [hpayload]
  refine (Environment.outcome_bind (outcome_ensureSecret hup payload) _).trans ?_
  dsimp only
  rw [hdesired]
  refine (Environment.outcome_bind (outcome_createVm hup hspawns hname hnone payload) _).trans ?_
  exact outcome_observed .create ⟨hup.infra, hup.tenant⟩ hcreated

theorem outcome_exists? (hup : env.Healthy) (machine infraNs : String) :
    env.outcome (exists? machine infraNs) =
      (.ok (env.infra.virtualMachines infraNs machine).isSome, env.unlogged) := by
  have hanswer : env.infra.answer (.getVirtualMachine infraNs machine) =
      (orNotFound "VirtualMachine" infraNs machine (env.infra.virtualMachines infraNs machine),
        env.infra) := InfraCluster.answer_of_healthy hup.infra _
  unfold exists?
  refine (Environment.outcome_bind (Environment.outcome_log _ _) _).trans ?_
  refine (Environment.outcome_bind (Environment.outcome_infra hanswer) _).trans ?_
  cases env.infra.virtualMachines infraNs machine with
  | some vm => exact Environment.outcome_pure _
  | none => exact Environment.outcome_bind (Environment.outcome_log _ _) _

end Lifecycle

/-! ### Operations -/

namespace Operation

open InfraCluster (spawned)
open Lifecycle (createdEnv)

variable {env after : Environment} {settings : Settings} {m : Machine} {s : Scope}

theorem outcome_payload (hup : env.Healthy) {secret : Secret} {bytes : ByteArray}
    (hsecret : env.tenant.secrets s.ns s.providerSpec.ignitionSecretName = some secret)
    (hbytes : secret.get? userDataKey = some bytes) :
    env.outcome (payload s) = (.ok bytes, env.unlogged) := by
  have hanswer : env.tenant.answer (.getSecret s.ns s.providerSpec.ignitionSecretName) =
      (.ok secret, env.tenant) := by
    unfold TenantCluster.answer
    rw [hup.tenant]
    simp only [TenantCluster.perform, hsecret, orNotFound]
  unfold payload
  refine (Environment.outcome_bind (Environment.outcome_tenant hanswer) _).trans ?_
  dsimp only
  rw [hbytes]
  rfl

/-- What creating comes to, given what writing back comes to. -/
theorem outcome_create (hup : env.Healthy) (hspawns : env.infra.spawnsInstances = true)
    {desired : VirtualMachine} {secret : Secret} {bytes payload : ByteArray}
    (hscope : Scope.ofMachine settings m = .ok s)
    (hsecret : env.tenant.secrets s.ns s.providerSpec.ignitionSecretName = some secret)
    (hbytes : secret.get? userDataKey = some bytes)
    (hpayload : Payload.addHostname bytes s.name = .ok payload)
    (hdesired : s.virtualMachine = .ok desired)
    (hnone : env.infra.virtualMachines s.infraNs s.name = none)
    (hpersist : (createdEnv env s payload (env.infra.admitted s.infraNs desired)).outcome
      (persist m (wanted env s (env.infra.admitted s.infraNs desired)
        (spawned s.infraNs s.name (env.infra.admitted s.infraNs desired))) .create) =
      (.ok (), after.unlogged)) :
    env.outcome (create settings m) =
      (.ok (), { after with events := after.events ++ [successEvent m .create "Created"]
        : Environment }.unlogged) := by
  have htry : env.outcome (tryCreate settings m) = (.ok (), after.unlogged) := by
    unfold tryCreate
    rw [hscope]
    refine (Environment.outcome_bind (Environment.outcome_log _ _) _).trans ?_
    refine (Environment.outcome_bind (outcome_payload hup hsecret hbytes) _).trans ?_
    refine (Environment.outcome_bind
      (Lifecycle.outcome_create hup hspawns hpayload hdesired hnone) _).trans ?_
    exact hpersist
  unfold create
  refine (Environment.outcome_bind htry _).trans ?_
  exact Environment.outcome_bind (outcome_reportSuccess _ _ _) _

theorem outcome_exists? (hup : env.Healthy) (settings : Settings) (m : Machine) :
    env.outcome (exists? settings m) =
      (.ok (env.infra.virtualMachines settings.infra.ns m.metadata.displayName).isSome,
        env.unlogged) := by
  unfold exists?
  refine (Environment.outcome_bind (Environment.outcome_log _ _) _).trans ?_
  exact Environment.outcome_bind (Lifecycle.outcome_exists? hup _ _) _

end Operation

/-! ### Applying a machine -/

namespace Machine

variable {env after : Environment} {settings : Settings} {m : Machine}

theorem outcome_apply_update (hup : env.Healthy) {vm : VirtualMachine}
    (hvm : env.infra.virtualMachines settings.infra.ns m.metadata.displayName = some vm)
    (hupdate : env.outcome (Operation.update settings m) = (.ok (), after.unlogged)) :
    env.outcome (apply settings m) = (.ok (.requeue resyncPeriod), after.unlogged) := by
  have hfound := Operation.outcome_exists? hup settings m
  rw [hvm] at hfound
  unfold apply
  refine (Environment.outcome_bind hfound _).trans ?_
  exact Environment.outcome_bind hupdate _

theorem outcome_apply_create (hup : env.Healthy)
    (hnone : env.infra.virtualMachines settings.infra.ns m.metadata.displayName = none)
    (hcreate : env.outcome (Operation.create settings m) = (.ok (), after.unlogged)) :
    env.outcome (apply settings m) = (.ok (.requeue resyncPeriod), after.unlogged) := by
  have hfound := Operation.outcome_exists? hup settings m
  rw [hnone] at hfound
  unfold apply
  refine (Environment.outcome_bind hfound _).trans ?_
  exact Environment.outcome_bind hcreate _

end Machine

end MachineActuator
