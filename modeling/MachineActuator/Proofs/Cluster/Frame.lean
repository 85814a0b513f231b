import Mathlib
import MachineActuator.Proofs.Course
import MachineActuator.Proofs.Time.Rfc3339

/-! # What others leave alone

Everything that is kept of a machine in the two clusters is filed under its name: its virtual
machine, the instance and the secret in the infrastructure cluster, and the machine itself in the
tenant cluster.  What is asked for on behalf of a machine with another name touches none of it
(`Undisturbed.of_applies`, `Undisturbed.of_cleansUp`). -/

namespace MachineActuator

/-- What is filed under a name in the infrastructure cluster stays, calls fail as before, and uids
are handed out in order. -/
structure InfraCluster.Keeps (ns name : String) (c c' : InfraCluster) : Prop where
  vm : c'.virtualMachines ns name = c.virtualMachines ns name
  vmi : c'.instances ns name = c.instances ns name
  secret : c'.secrets ns (ignitionSecretName name) = c.secrets ns (ignitionSecretName name)
  failures : c'.failures = c.failures
  spawns : c'.spawnsInstances = c.spawnsInstances
  nextUid : c.nextUid ≤ c'.nextUid

/-- The machine under a name in the tenant cluster stays, with all secrets, and calls fail as
before. -/
structure TenantCluster.Keeps (ns name : String) (c c' : TenantCluster) : Prop where
  machine : c'.machines ns name = c.machines ns name
  secrets : c'.secrets = c.secrets
  failures : c'.failures = c.failures

/-- Whatever concerns a machine is as it was, though the clock may have been set. -/
structure Undisturbed (settings : Settings) (m : Machine) (env env' : Environment) : Prop where
  infra : env.infra.Keeps settings.infra.ns (m.metadata.name.getD "") env'.infra
  tenant : env.tenant.Keeps (m.metadata.ns.getD "") (m.metadata.name.getD "") env'.tenant
  hosts : env'.hosts = env.hosts
  now : env.now.Valid → env'.now.Valid

theorem InfraCluster.Keeps.refl (ns name : String) (c : InfraCluster) : c.Keeps ns name c :=
  ⟨rfl, rfl, rfl, rfl, rfl, le_rfl⟩

theorem TenantCluster.Keeps.refl (ns name : String) (c : TenantCluster) : c.Keeps ns name c :=
  ⟨rfl, rfl, rfl⟩

theorem Undisturbed.refl (settings : Settings) (m : Machine) (env : Environment) :
    Undisturbed settings m env env :=
  ⟨.refl _ _ _, .refl _ _ _, rfl, id⟩

/-- The names of secrets differ as the names of machines do. -/
theorem ignitionSecretName_injective : Function.Injective ignitionSecretName := by
  intro a b h
  have hlists := congrArg String.toList h
  unfold ignitionSecretName at hlists
  rw [String.toList_append, String.toList_append] at hlists
  exact String.toList_inj.mp (List.append_cancel_right hlists)

/-! ### Calls on behalf of others -/

namespace InfraCluster

variable {c : InfraCluster} {ns name other : String}

theorem keeps_createVirtualMachine (h : name ≠ other) {vm : VirtualMachine}
    (hvm : vm.metadata.name = some other) :
    c.Keeps ns name (c.answer (.createVirtualMachine ns vm)).2 := by
  have hkey : ¬ (ns = ns ∧ name = other) := fun hkey => h hkey.2
  unfold answer
  split
  · exact .refl _ _ _
  · simp only [perform, createVirtualMachine, hvm, Option.getD_some]
    split
    · exact .refl _ _ _
    · refine ⟨Store.put_of_ne _ _ hkey, ?_, rfl, rfl, rfl, Nat.le_succ _⟩
      dsimp only
      split_ifs
      · exact Store.put_of_ne _ _ hkey
      · rfl

theorem keeps_updateVirtualMachine (h : name ≠ other) {vm : VirtualMachine}
    (hvm : vm.metadata.name = some other) :
    c.Keeps ns name (c.answer (.updateVirtualMachine ns vm)).2 := by
  have hkey : ¬ (ns = ns ∧ name = other) := fun hkey => h hkey.2
  unfold answer
  split
  · exact .refl _ _ _
  · simp only [perform, updateVirtualMachine, hvm, Option.getD_some]
    split
    · exact .refl _ _ _
    · split_ifs
      · exact .refl _ _ _
      · exact ⟨Store.put_of_ne _ _ hkey, rfl, rfl, rfl, rfl, le_rfl⟩
      · exact .refl _ _ _

theorem keeps_deleteVirtualMachine (h : name ≠ other) (grace : Nat) :
    c.Keeps ns name (c.answer (.deleteVirtualMachine ns other grace)).2 := by
  have hkey : ¬ (ns = ns ∧ name = other) := fun hkey => h hkey.2
  unfold answer
  split
  · exact .refl _ _ _
  · simp only [perform, deleteVirtualMachine]
    split
    · exact .refl _ _ _
    · exact ⟨Store.remove_of_ne _ hkey, Store.remove_of_ne _ hkey, rfl, rfl, rfl, le_rfl⟩

theorem keeps_createSecret (h : name ≠ other) {secret : Secret}
    (hsecret : secret.metadata.name = some (ignitionSecretName other)) :
    c.Keeps ns name (c.answer (.createSecret ns secret)).2 := by
  have hkey : ¬ (ns = ns ∧ ignitionSecretName name = ignitionSecretName other) :=
    fun hkey => h (ignitionSecretName_injective hkey.2)
  unfold answer
  split
  · exact .refl _ _ _
  · simp only [perform, createSecret, hsecret, Option.getD_some]
    split
    · exact .refl _ _ _
    · exact ⟨rfl, rfl, Store.put_of_ne _ _ hkey, rfl, rfl, le_rfl⟩

theorem keeps_get {call : InfraCall} (h : (c.answer call).2 = c) :
    c.Keeps ns name (c.answer call).2 := by
  rw [h]
  exact .refl _ _ _

theorem answer_getVirtualMachine_snd : (c.answer (.getVirtualMachine ns name)).2 = c := by
  unfold answer
  split
  · rfl
  · rfl

theorem answer_getInstance_snd : (c.answer (.getInstance ns name)).2 = c := by
  unfold answer
  split
  · rfl
  · rfl

end InfraCluster

namespace TenantCluster

variable {c : TenantCluster} {ns ns' name other : String}

theorem keeps_applyPatch (c : TenantCluster) (ns ns' : String) (h : name ≠ other) (patch : Json) :
    c.Keeps ns name (c.applyPatch ns' other patch).2 := by
  have hkey : ¬ (ns = ns' ∧ name = other) := fun hkey => h hkey.2
  unfold applyPatch
  split
  · exact .refl _ _ _
  · split
    · exact .refl _ _ _
    · exact ⟨Store.put_of_ne _ _ hkey, rfl, rfl⟩

theorem keeps_patchMachine (h : name ≠ other) (patch : Json) :
    c.Keeps ns name (c.answer (.patchMachine ns' other patch)).2 := by
  unfold answer
  split
  · exact .refl _ _ _
  · obtain ⟨hmachine, hsecrets, hfailures⟩ := keeps_applyPatch
      { c with machinePatches := c.machinePatches ++ [patch] } ns ns' h patch
    exact ⟨hmachine, hsecrets, hfailures⟩

theorem keeps_patchMachineStatus (h : name ≠ other) (patch : Json) :
    c.Keeps ns name (c.answer (.patchMachineStatus ns' other patch)).2 := by
  unfold answer
  split
  · exact .refl _ _ _
  · obtain ⟨hmachine, hsecrets, hfailures⟩ := keeps_applyPatch
      { c with statusPatches := c.statusPatches ++ [patch] } ns ns' h patch
    exact ⟨hmachine, hsecrets, hfailures⟩

theorem answer_getSecret_snd : (c.answer (.getSecret ns name)).2 = c := by
  unfold answer
  split
  · rfl
  · rfl

end TenantCluster

/-! ### Effects on behalf of others -/

namespace Undisturbed

variable {settings : Settings} {m other : Machine} {name : String} {e : Effect} {env : Environment}

theorem of_infra {call : InfraCall}
    (h : env.infra.Keeps settings.infra.ns (m.metadata.name.getD "") (env.infra.answer call).2) :
    Undisturbed settings m env (Step.mk (.infra call) env).after :=
  ⟨h, .refl _ _ _, rfl, id⟩

theorem of_tenant {call : TenantCall}
    (h : env.tenant.Keeps (m.metadata.ns.getD "") (m.metadata.name.getD "")
      (env.tenant.answer call).2) :
    Undisturbed settings m env (Step.mk (.tenant call) env).after :=
  ⟨.refl _ _ _, h, rfl, id⟩

/-- Applying a machine leaves alone whatever concerns a machine of another name. -/
theorem of_applies (hname : other.metadata.name = some name) (hne : m.metadata.name.getD "" ≠ name)
    (h : Effect.Applies settings other e) : Undisturbed settings m env (Step.mk e env).after := by
  cases e with
  | infra call =>
    cases call with
    | createVirtualMachine ns vm =>
      obtain ⟨rfl, hvm⟩ := h
      rw [hname] at hvm
      exact of_infra (InfraCluster.keeps_createVirtualMachine hne hvm)
    | getVirtualMachine ns key =>
      exact of_infra (InfraCluster.keeps_get InfraCluster.answer_getVirtualMachine_snd)
    | updateVirtualMachine ns vm =>
      obtain ⟨rfl, hvm⟩ := h
      rw [hname] at hvm
      exact of_infra (InfraCluster.keeps_updateVirtualMachine hne hvm)
    | deleteVirtualMachine ns key grace => exact False.elim h
    | getInstance ns key =>
      exact of_infra (InfraCluster.keeps_get InfraCluster.answer_getInstance_snd)
    | createSecret ns secret =>
      obtain ⟨rfl, hsecret⟩ := h
      rw [hname] at hsecret
      exact of_infra (InfraCluster.keeps_createSecret hne hsecret)
  | tenant call =>
    have hdisplay : other.metadata.displayName = name := by
      unfold ObjectMeta.displayName
      rw [hname]
      rfl
    cases call with
    | patchMachine ns key patch =>
      obtain ⟨⟨rfl, rfl⟩, -⟩ := h
      rw [hdisplay]
      exact of_tenant (TenantCluster.keeps_patchMachine hne patch)
    | patchMachineStatus ns key patch =>
      obtain ⟨⟨rfl, rfl⟩, -⟩ := h
      rw [hdisplay]
      exact of_tenant (TenantCluster.keeps_patchMachineStatus hne patch)
    | getSecret ns key =>
      refine of_tenant ?_
      rw [TenantCluster.answer_getSecret_snd]
      exact .refl _ _ _
    | getConfigMapValue ns key value => exact False.elim h
    | deleteNode key => exact False.elim h
    | patchNodeProviderId key id => exact False.elim h
  | changeFinalizers ns key change => exact False.elim h
  | resolve host => exact refl _ _ _
  | now => exact refl _ _ _
  | publish event => exact ⟨.refl _ _ _, .refl _ _ _, rfl, id⟩
  | log line => exact ⟨.refl _ _ _, .refl _ _ _, rfl, id⟩

theorem of_cleansUp (hname : other.metadata.name = some name)
    (hne : m.metadata.name.getD "" ≠ name) (h : Effect.CleansUp settings other e) :
    Undisturbed settings m env (Step.mk e env).after := by
  cases e with
  | infra call =>
    cases call with
    | getVirtualMachine ns key =>
      exact of_infra (InfraCluster.keeps_get InfraCluster.answer_getVirtualMachine_snd)
    | deleteVirtualMachine ns key grace =>
      obtain ⟨rfl, rfl⟩ := h
      rw [hname]
      exact of_infra (InfraCluster.keeps_deleteVirtualMachine hne grace)
    | createVirtualMachine ns vm => exact False.elim h
    | updateVirtualMachine ns vm => exact False.elim h
    | getInstance ns key => exact False.elim h
    | createSecret ns secret => exact False.elim h
  | tenant call => exact False.elim h
  | changeFinalizers ns key change => exact False.elim h
  | resolve host => exact False.elim h
  | now => exact False.elim h
  | publish event => exact ⟨.refl _ _ _, .refl _ _ _, rfl, id⟩
  | log line => exact ⟨.refl _ _ _, .refl _ _ _, rfl, id⟩

end Undisturbed

end MachineActuator
