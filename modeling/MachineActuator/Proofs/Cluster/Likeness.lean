import Mathlib
import MachineActuator.Proofs.Alike
import MachineActuator.Proofs.Cluster.Frame
import MachineActuator.Proofs.Machine.Renumbering

/-! # Alike for one machine

Two environments are alike for a machine when it finds the same in both, except for the contents
that are named: its virtual machine, which may have another uid, and the machine itself, which may
have another copy of it and another stamp (`Like`).  What others do does not change that
(`Like.kept`), and what the machine asks for is answered alike (`Like.answers`, and one lemma for
each call that writes what is named). -/

namespace MachineActuator

/-- What is filed under a name is the same in both clusters, except for the virtual machines. -/
structure InfraCluster.Like (ns name : String) (first : Nat) (v₁ v₂ : Option VirtualMachine)
    (c₁ c₂ : InfraCluster) : Prop where
  vm₁ : c₁.virtualMachines ns name = v₁
  vm₂ : c₂.virtualMachines ns name = v₂
  vmi : c₁.instances ns name = c₂.instances ns name
  secret : c₁.secrets ns (ignitionSecretName name) = c₂.secrets ns (ignitionSecretName name)
  failures : c₁.failures = c₂.failures
  spawns : c₁.spawnsInstances = c₂.spawnsInstances
  next₁ : first ≤ c₁.nextUid
  next₂ : first ≤ c₂.nextUid

/-- What a machine finds is the same in both clusters, except for the machine. -/
structure TenantCluster.Like (ns name : String) (r₁ r₂ : Machine) (c₁ c₂ : TenantCluster) :
    Prop where
  machine₁ : c₁.machines ns name = some r₁
  machine₂ : c₂.machines ns name = some r₂
  secrets : c₁.secrets = c₂.secrets
  failures : c₁.failures = c₂.failures

/-- Everything that concerns a machine is the same in both environments, except for its virtual
machines `v₁` and `v₂`, the machines `r₁` and `r₂` that are stored under its name, and the clock. -/
structure Like (settings : Settings) (m : Machine) (first : Nat) (v₁ v₂ : Option VirtualMachine)
    (r₁ r₂ : Machine) (env₁ env₂ : Environment) : Prop where
  infra : env₁.infra.Like settings.infra.ns (m.metadata.name.getD "") first v₁ v₂ env₂.infra
  tenant : env₁.tenant.Like (m.metadata.ns.getD "") (m.metadata.name.getD "") r₁ r₂ env₂.tenant
  hosts : env₁.hosts = env₂.hosts
  now₁ : env₁.now.Valid
  now₂ : env₂.now.Valid

/-! ### The infrastructure cluster -/

namespace InfraCluster.Like

variable {ns name : String} {first : Nat} {v v₁ v₂ : Option VirtualMachine}
  {c₁ c₁' c₂ c₂' : InfraCluster}

theorem left (h : Like ns name first v₁ v₂ c₁ c₂) (hkeeps : c₁.Keeps ns name c₁') :
    Like ns name first v₁ v₂ c₁' c₂ :=
  ⟨hkeeps.vm.trans h.vm₁, h.vm₂, hkeeps.vmi.trans h.vmi, hkeeps.secret.trans h.secret,
    hkeeps.failures.trans h.failures, hkeeps.spawns.trans h.spawns, h.next₁.trans hkeeps.nextUid,
    h.next₂⟩

theorem right (h : Like ns name first v₁ v₂ c₁ c₂) (hkeeps : c₂.Keeps ns name c₂') :
    Like ns name first v₁ v₂ c₁ c₂' :=
  ⟨h.vm₁, hkeeps.vm.trans h.vm₂, h.vmi.trans hkeeps.vmi.symm, h.secret.trans hkeeps.secret.symm,
    h.failures.trans hkeeps.failures.symm, h.spawns.trans hkeeps.spawns.symm, h.next₁,
    h.next₂.trans hkeeps.nextUid⟩

theorem answer_getInstance (h : Like ns name first v₁ v₂ c₁ c₂) :
    (c₁.answer (.getInstance ns name)).1 = (c₂.answer (.getInstance ns name)).1 ∧
      Like ns name first v₁ v₂ (c₁.answer (.getInstance ns name)).2
        (c₂.answer (.getInstance ns name)).2 := by
  unfold answer
  rw [h.failures]
  split
  · exact ⟨rfl, h⟩
  · refine ⟨?_, h⟩
    simp only [perform]
    rw [h.vmi]

theorem answer_createSecret (h : Like ns name first v₁ v₂ c₁ c₂) {secret : Secret}
    (hsecret : secret.metadata.name = some (ignitionSecretName name)) :
    (c₁.answer (.createSecret ns secret)).1 = (c₂.answer (.createSecret ns secret)).1 ∧
      Like ns name first v₁ v₂ (c₁.answer (.createSecret ns secret)).2
        (c₂.answer (.createSecret ns secret)).2 := by
  unfold answer
  rw [h.failures]
  split
  · exact ⟨rfl, h⟩
  · simp only [perform, createSecret, hsecret, Option.getD_some]
    rw [h.secret]
    split
    · exact ⟨rfl, h⟩
    · refine ⟨rfl, { h with secret := ?_ }⟩
      dsimp only
      rw [Store.put_same, Store.put_same]

/-- A virtual machine that is the same in both is looked up with the same result: it, or the error
that it is missing, unless the call is made to fail. -/
theorem answer_getVirtualMachine (h : Like ns name first v v c₁ c₂) :
    (c₁.answer (.getVirtualMachine ns name)).1 = (c₂.answer (.getVirtualMachine ns name)).1 ∧
      ((c₁.answer (.getVirtualMachine ns name)).1 = orNotFound "VirtualMachine" ns name v ∨
        ∃ text, (c₁.answer (.getVirtualMachine ns name)).1 = .error (.api text)) ∧
      Like ns name first v v (c₁.answer (.getVirtualMachine ns name)).2
        (c₂.answer (.getVirtualMachine ns name)).2 := by
  unfold answer
  rw [h.failures]
  split
  · next text _ => exact ⟨rfl, .inr ⟨text, rfl⟩, h⟩
  · simp only [perform, h.vm₁, h.vm₂]
    exact ⟨trivial, .inl trivial, h⟩

/-- A virtual machine is created in both or in none; the new ones are alike but for their uids. -/
theorem answer_createVirtualMachine (h : Like ns name first v v c₁ c₂) {vm : VirtualMachine}
    (hvm : vm.metadata.name = some name) :
    (∃ e, (c₁.answer (.createVirtualMachine ns vm)).1 = .error e ∧
        (c₂.answer (.createVirtualMachine ns vm)).1 = .error e ∧
        Like ns name first v v (c₁.answer (.createVirtualMachine ns vm)).2
          (c₂.answer (.createVirtualMachine ns vm)).2) ∨
      ∃ (new : VirtualMachine) (n₁ n₂ : Nat),
        (first ≤ n₁ ∧ first ≤ n₂ ∧ new.metadata.ns = some ns ∧ new.metadata.name = some name) ∧
        (c₁.answer (.createVirtualMachine ns vm)).1 = .ok (new.withUid (uid n₁)) ∧
        (c₂.answer (.createVirtualMachine ns vm)).1 = .ok (new.withUid (uid n₂)) ∧
        Like ns name first (some (new.withUid (uid n₁))) (some (new.withUid (uid n₂)))
          (c₁.answer (.createVirtualMachine ns vm)).2
          (c₂.answer (.createVirtualMachine ns vm)).2 := by
  unfold answer
  rw [h.failures]
  split
  · next text _ => exact .inl ⟨_, rfl, rfl, h⟩
  · simp only [perform, createVirtualMachine, hvm, Option.getD_some, h.vm₁, h.vm₂]
    cases v with
    | some stored => exact .inl ⟨_, rfl, rfl, h⟩
    | none =>
      refine .inr ⟨c₁.admitted ns vm, c₁.nextUid, c₂.nextUid, ⟨h.next₁, h.next₂, rfl, hvm⟩, rfl,
        rfl, Store.put_same _ _ _ _, Store.put_same _ _ _ _, ?_, h.secret, h.failures, h.spawns,
        h.next₁.trans (Nat.le_succ _), h.next₂.trans (Nat.le_succ _)⟩
      dsimp only
      rw [h.spawns]
      split_ifs
      · -- the instance takes over what was asked for, and nothing of the uid
        rw [Store.put_same, Store.put_same]
        rfl
      · exact h.vmi

/-- A virtual machine that is the same in both is replaced with the same result, and is the same
again. -/
theorem answer_updateVirtualMachine {stored : VirtualMachine}
    (h : Like ns name first (some stored) (some stored) c₁ c₂) {vm : VirtualMachine}
    (hvm : vm.metadata.name = some name) :
    (c₁.answer (.updateVirtualMachine ns vm)).1 = (c₂.answer (.updateVirtualMachine ns vm)).1 ∧
      (∀ updated, (c₁.answer (.updateVirtualMachine ns vm)).1 = .ok updated →
        updated.metadata.ns = stored.metadata.ns ∧
          updated.metadata.displayName = stored.metadata.displayName) ∧
      ∃ after, Like ns name first (some after) (some after)
        (c₁.answer (.updateVirtualMachine ns vm)).2
        (c₂.answer (.updateVirtualMachine ns vm)).2 := by
  unfold answer
  rw [h.failures]
  split
  · exact ⟨rfl, fun updated hupdated => by simp at hupdated, stored, h⟩
  · simp only [perform, updateVirtualMachine, hvm, Option.getD_some, h.vm₁, h.vm₂]
    split_ifs
    · exact ⟨rfl, fun updated hupdated => by simp at hupdated, stored, h⟩
    · refine ⟨rfl, ?_, replaced vm stored,
        { h with vm₁ := Store.put_same _ _ _ _, vm₂ := Store.put_same _ _ _ _ }⟩
      intro updated hupdated
      obtain rfl := Except.ok.inj hupdated
      exact ⟨rfl, rfl⟩
    · refine ⟨rfl, ?_, stored, h⟩
      intro updated hupdated
      obtain rfl := Except.ok.inj hupdated
      exact ⟨rfl, rfl⟩

/-- A virtual machine that is the same in both is deleted in both or in none. -/
theorem answer_deleteVirtualMachine (h : Like ns name first v v c₁ c₂) (grace : Nat) :
    (c₁.answer (.deleteVirtualMachine ns name grace)).1 =
        (c₂.answer (.deleteVirtualMachine ns name grace)).1 ∧
      ∃ after, (v = none → after = none) ∧
        Like ns name first after after (c₁.answer (.deleteVirtualMachine ns name grace)).2
          (c₂.answer (.deleteVirtualMachine ns name grace)).2 := by
  unfold answer
  rw [h.failures]
  split
  · exact ⟨rfl, v, id, h⟩
  · simp only [perform, deleteVirtualMachine, h.vm₁, h.vm₂]
    cases v with
    | none => exact ⟨rfl, none, id, h⟩
    | some stored =>
      refine ⟨rfl, none, fun _ => rfl, { h with
        vm₁ := Store.remove_same _ _ _, vm₂ := Store.remove_same _ _ _, vmi := ?_ }⟩
      dsimp only
      rw [Store.remove_same, Store.remove_same]

end InfraCluster.Like

/-! ### The tenant cluster -/

namespace TenantCluster.Like

variable {ns name : String} {r₁ r₁' r₂ r₂' : Machine} {c₁ c₁' c₂ c₂' : TenantCluster}
  {patch₁ patch₂ : Json}

theorem left (h : Like ns name r₁ r₂ c₁ c₂) (hkeeps : c₁.Keeps ns name c₁') :
    Like ns name r₁ r₂ c₁' c₂ :=
  ⟨hkeeps.machine.trans h.machine₁, h.machine₂, hkeeps.secrets.trans h.secrets,
    hkeeps.failures.trans h.failures⟩

theorem right (h : Like ns name r₁ r₂ c₁ c₂) (hkeeps : c₂.Keeps ns name c₂') :
    Like ns name r₁ r₂ c₁ c₂' :=
  ⟨h.machine₁, hkeeps.machine.trans h.machine₂, h.secrets.trans hkeeps.secrets.symm,
    h.failures.trans hkeeps.failures.symm⟩

theorem answer_getSecret (h : Like ns name r₁ r₂ c₁ c₂) (secretNs secretName : String) :
    (c₁.answer (.getSecret secretNs secretName)).1 =
        (c₂.answer (.getSecret secretNs secretName)).1 ∧
      Like ns name r₁ r₂ (c₁.answer (.getSecret secretNs secretName)).2
        (c₂.answer (.getSecret secretNs secretName)).2 := by
  unfold answer
  rw [h.failures]
  split
  · exact ⟨rfl, h⟩
  · refine ⟨?_, h⟩
    simp only [perform]
    rw [h.secrets]

/-- Patches are merged in neither cluster, or in both. -/
def PatchedEach (ns name : String) (r₁ r₂ r₁' r₂' : Machine)
    (sent₁ sent₂ : Except ClientError Machine × TenantCluster) : Prop :=
  (∃ e, sent₁.1 = .error e ∧ sent₂.1 = .error e ∧ Like ns name r₁ r₂ sent₁.2 sent₂.2) ∨
    sent₁.1 = .ok r₁' ∧ sent₂.1 = .ok r₂' ∧ Like ns name r₁' r₂' sent₁.2 sent₂.2

section

variable (h : Like ns name r₁ r₂ c₁ c₂)
  (h₁ : Machine.ofJson? (r₁.toJson.mergePatch patch₁) = some r₁')
  (h₂ : Machine.ofJson? (r₂.toJson.mergePatch patch₂) = some r₂')

include h h₁ h₂

theorem applyPatch :
    PatchedEach ns name r₁ r₂ r₁' r₂' (c₁.applyPatch ns name patch₁)
      (c₂.applyPatch ns name patch₂) := by
  rw [applyPatch_eq h.machine₁ h₁, applyPatch_eq h.machine₂ h₂]
  exact .inr ⟨rfl, rfl, Store.put_same _ _ _ _, Store.put_same _ _ _ _, h.secrets, h.failures⟩

theorem answer_patchMachine :
    PatchedEach ns name r₁ r₂ r₁' r₂' (c₁.answer (.patchMachine ns name patch₁))
      (c₂.answer (.patchMachine ns name patch₂)) := by
  have hfailures : c₁.failures (TenantCall.operation (.patchMachine ns name patch₁)) =
      c₂.failures (TenantCall.operation (.patchMachine ns name patch₂)) := congrFun h.failures _
  have hrecorded : Like ns name r₁ r₂ { c₁ with machinePatches := c₁.machinePatches ++ [patch₁] }
      { c₂ with machinePatches := c₂.machinePatches ++ [patch₂] } :=
    ⟨h.machine₁, h.machine₂, h.secrets, h.failures⟩
  unfold answer
  rw [hfailures]
  split
  · exact .inl ⟨_, rfl, rfl, h⟩
  · exact hrecorded.applyPatch h₁ h₂

theorem answer_patchMachineStatus :
    PatchedEach ns name r₁ r₂ r₁' r₂' (c₁.answer (.patchMachineStatus ns name patch₁))
      (c₂.answer (.patchMachineStatus ns name patch₂)) := by
  have hfailures : c₁.failures (TenantCall.operation (.patchMachineStatus ns name patch₁)) =
      c₂.failures (TenantCall.operation (.patchMachineStatus ns name patch₂)) :=
    congrFun h.failures _
  have hrecorded : Like ns name r₁ r₂ { c₁ with statusPatches := c₁.statusPatches ++ [patch₁] }
      { c₂ with statusPatches := c₂.statusPatches ++ [patch₂] } :=
    ⟨h.machine₁, h.machine₂, h.secrets, h.failures⟩
  unfold answer
  rw [hfailures]
  split
  · exact .inl ⟨_, rfl, rfl, h⟩
  · exact hrecorded.applyPatch h₁ h₂

end

end TenantCluster.Like

/-! ### Environments -/

/-- What is asked for without writing the virtual machine or the machine: the instance and the
secret of the virtual machine, secrets of the tenant cluster, addresses, events and log lines. -/
def Effect.Quiet (settings : Settings) (m : Machine) : Effect → Prop
  | .infra (.getInstance ns name) => ns = settings.infra.ns ∧ name = m.metadata.name.getD ""
  | .infra (.createSecret ns secret) =>
    ns = settings.infra.ns ∧
      secret.metadata.name = some (ignitionSecretName (m.metadata.name.getD ""))
  | .tenant (.getSecret ..) => True
  | .resolve _ | .publish _ | .log _ => True
  | _ => False

namespace Like

variable {settings : Settings} {m : Machine} {first : Nat} {v v₁ v₂ : Option VirtualMachine}
  {r₁ r₂ : Machine}

theorem kept : Kept (Undisturbed settings m) (Like settings m first v₁ v₂ r₁ r₂) where
  left _ _ _ drift h :=
    ⟨h.infra.left drift.infra, h.tenant.left drift.tenant, drift.hosts.trans h.hosts,
      drift.now h.now₁, h.now₂⟩
  right _ _ _ drift h :=
    ⟨h.infra.right drift.infra, h.tenant.right drift.tenant, h.hosts.trans drift.hosts.symm,
      h.now₁, drift.now h.now₂⟩

theorem answers : Answers (Undisturbed settings m) (Effect.Quiet settings m)
    (Like settings m first v₁ v₂ r₁ r₂) := by
  refine ⟨kept, ?_⟩
  intro e env₁ env₂ he h
  cases e with
  | infra call =>
    cases call with
    | getInstance ns name =>
      obtain ⟨rfl, rfl⟩ := he
      obtain ⟨hanswer, hinfra⟩ := h.infra.answer_getInstance
      exact ⟨hanswer, { h with infra := hinfra }⟩
    | createSecret ns secret =>
      obtain ⟨rfl, hsecret⟩ := he
      obtain ⟨hanswer, hinfra⟩ := h.infra.answer_createSecret hsecret
      exact ⟨hanswer, { h with infra := hinfra }⟩
    | createVirtualMachine ns vm => exact False.elim he
    | getVirtualMachine ns name => exact False.elim he
    | updateVirtualMachine ns vm => exact False.elim he
    | deleteVirtualMachine ns name grace => exact False.elim he
  | tenant call =>
    cases call with
    | getSecret ns name =>
      obtain ⟨hanswer, htenant⟩ := h.tenant.answer_getSecret ns name
      exact ⟨hanswer, { h with tenant := htenant }⟩
    | patchMachine ns name patch => exact False.elim he
    | patchMachineStatus ns name patch => exact False.elim he
    | getConfigMapValue ns name key => exact False.elim he
    | deleteNode name => exact False.elim he
    | patchNodeProviderId name id => exact False.elim he
  | changeFinalizers ns name change => exact False.elim he
  | resolve host => exact ⟨congrFun h.hosts host, h⟩
  | now => exact False.elim he
  | publish event => exact ⟨rfl, h.infra, h.tenant, h.hosts, h.now₁, h.now₂⟩
  | log line => exact ⟨rfl, h.infra, h.tenant, h.hosts, h.now₁, h.now₂⟩

/-- Where the virtual machine is the same in both, whatever is asked for to clean up is answered
alike; then it is the same again, and none has come up. -/
theorem answers_cleansUp (v₀ : Option VirtualMachine) :
    Answers (Undisturbed settings m) (Effect.CleansUp settings m) fun env₁ env₂ =>
      ∃ v, (v₀ = none → v = none) ∧ Like settings m first v v r₁ r₂ env₁ env₂ := by
  refine ⟨.exists fun v => kept.and _, ?_⟩
  rintro e env₁ env₂ he ⟨v, hnone, h⟩
  cases e with
  | infra call =>
    cases call with
    | getVirtualMachine ns name =>
      obtain ⟨rfl, rfl⟩ := he
      obtain ⟨hanswer, -, hinfra⟩ := h.infra.answer_getVirtualMachine
      exact ⟨hanswer, v, hnone, { h with infra := hinfra }⟩
    | deleteVirtualMachine ns name grace =>
      obtain ⟨rfl, rfl⟩ := he
      obtain ⟨hanswer, after, hafter, hinfra⟩ := h.infra.answer_deleteVirtualMachine grace
      exact ⟨hanswer, after, hafter ∘ hnone, ⟨hinfra, h.tenant, h.hosts, h.now₁, h.now₂⟩⟩
    | createVirtualMachine ns vm => exact False.elim he
    | updateVirtualMachine ns vm => exact False.elim he
    | getInstance ns name => exact False.elim he
    | createSecret ns secret => exact False.elim he
  | tenant call => exact False.elim he
  | changeFinalizers ns name change => exact False.elim he
  | resolve host => exact False.elim he
  | now => exact False.elim he
  | publish event => exact ⟨rfl, v, hnone, h.infra, h.tenant, h.hosts, h.now₁, h.now₂⟩
  | log line => exact ⟨rfl, v, hnone, h.infra, h.tenant, h.hosts, h.now₁, h.now₂⟩

end Like

end MachineActuator
