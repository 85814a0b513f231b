import Mathlib
import MachineActuator.Proofs.Cluster.Answer
import MachineActuator.Proofs.Machine.Effects
import MachineActuator.Proofs.Machine.Patch

/-! # Soundness of the clusters

What the operations on machines leave behind wherever they stop.  An infrastructure cluster is sound
when every virtual machine is stored under its own name and has a uid and an instance
(`InfraCluster.Sound`), a tenant cluster when every machine was read from a document and is stored
under its own name (`TenantCluster.Sound`).  Every call that the operations may make keeps both
(`InfraCluster.Sound.answer`, `TenantCluster.Sound.answer`). -/

namespace MachineActuator

/-! ### What keeps clusters sound -/

/-- What the operations on machines keep to: no virtual machine without a name is created, and no
patch is sent that is not one between two machines. -/
def Effect.Tame : Effect → Prop
  | .infra (.createVirtualMachine _ vm) => ∃ name, vm.metadata.name = some name
  | .tenant (.patchMachine _ _ patch) => ∃ before after, Machine.patch? before after = some patch
  | .tenant (.patchMachineStatus _ _ patch) =>
    ∃ before after now, Machine.statusPatch? before after now = some patch
  | _ => True

theorem Effect.Applies.tame {settings : Settings} {m : Machine} {e : Effect}
    (h : e.Applies settings m) : e.Tame := by
  cases e with
  | infra call =>
    cases call with
    | createVirtualMachine ns vm => exact ⟨_, h.2⟩
    | _ => trivial
  | tenant call =>
    cases call with
    | patchMachine ns name patch => exact ⟨m, h.2⟩
    | patchMachineStatus ns name patch => exact ⟨m, h.2⟩
    | _ => trivial
  | _ => trivial

theorem Effect.CleansUp.tame {settings : Settings} {m : Machine} {e : Effect}
    (h : e.CleansUp settings m) : e.Tame := by
  cases e with
  | infra call =>
    cases call with
    | createVirtualMachine ns vm => exact absurd h id
    | _ => trivial
  | tenant call => exact absurd h id
  | _ => trivial

/-! ### Sound infrastructure clusters -/

namespace InfraCluster

/-- A virtual machine that is stored under its own name, with a uid and an instance. -/
structure Backed (c : InfraCluster) (ns name : String) (vm : VirtualMachine) : Prop where
  running : ∃ vmi, c.instances ns name = some vmi ∧ vmi.metadata.name = some name
  uid : ∃ uid, vm.metadata.uid = some uid
  name : vm.metadata.name = some name
  ns : vm.metadata.ns = some ns

theorem Backed.of_instances {c c' : InfraCluster} {ns name : String} {vm : VirtualMachine}
    (h : c.Backed ns name vm) (hc : c'.instances ns name = c.instances ns name) :
    c'.Backed ns name vm := by
  obtain ⟨⟨vmi, hvmi, hvmiName⟩, huid, hname, hns⟩ := h
  exact ⟨⟨vmi, hc.trans hvmi, hvmiName⟩, huid, hname, hns⟩

/-- A cluster in which every virtual machine is backed, and every new one will be. -/
structure Sound (c : InfraCluster) : Prop where
  spawns : c.spawnsInstances = true
  backed : ∀ ns name vm, c.virtualMachines ns name = some vm → c.Backed ns name vm

theorem sound_empty : ({} : InfraCluster).Sound := ⟨rfl, fun _ _ _ h => by simp [Store.empty] at h⟩

variable {c : InfraCluster}

/-- A stored machine may be replaced by one that keeps name, namespace and uid. -/
theorem Sound.put (h : c.Sound) {ns name : String} {stored vm : VirtualMachine}
    (hstored : c.virtualMachines ns name = some stored)
    (hname : vm.metadata.name = stored.metadata.name) (hns : vm.metadata.ns = stored.metadata.ns)
    (huid : vm.metadata.uid = stored.metadata.uid) :
    Sound { c with virtualMachines := c.virtualMachines.put ns name vm } := by
  refine ⟨h.spawns, fun n m vm' hvm' => ?_⟩
  obtain ⟨rfl, rfl, rfl⟩ | ⟨-, hold⟩ := Store.cases_of_put hvm'
  · have hbacked := h.backed _ _ _ hstored
    exact ⟨hbacked.running, hbacked.uid.imp fun _ hu => huid.trans hu,
      hname.trans hbacked.name, hns.trans hbacked.ns⟩
  · exact (h.backed n m vm' hold).of_instances rfl

theorem Sound.answer (h : c.Sound) {call : InfraCall} (htame : (Effect.infra call).Tame) :
    (c.answer call).2.Sound := by
  have hchanges := c.changes_answer call
  generalize (c.answer call).2 = after at hchanges ⊢
  cases hchanges with
  | unchanged => exact h
  | created =>
    obtain ⟨name, hname⟩ := htame
    rw [hname, Option.getD_some, h.spawns, if_pos rfl]
    refine ⟨rfl, fun n m vm' hvm' => ?_⟩
    obtain ⟨rfl, rfl, rfl⟩ | ⟨hkey, hold⟩ := Store.cases_of_put hvm'
    · exact ⟨⟨_, Store.put_same _ _ _ _, rfl⟩, ⟨_, rfl⟩, hname, rfl⟩
    · exact (h.backed n m vm' hold).of_instances (Store.put_of_ne _ _ hkey)
  | updated hstored => exact h.put hstored rfl rfl rfl
  | deleted =>
    refine ⟨h.spawns, fun n m vm' hvm' => ?_⟩
    -- the instance of another machine is not the one that goes away with this one
    obtain ⟨hkey, hold⟩ := Store.of_remove hvm'
    exact (h.backed n m vm' hold).of_instances (Store.remove_of_ne _ hkey)
  | provided => exact ⟨h.spawns, fun n m vm hvm => (h.backed n m vm hvm).of_instances rfl⟩

theorem Sound.setStatus (h : c.Sound) (ns name : String) (status : VirtualMachineStatus) :
    (c.setStatus ns name status).Sound := by
  unfold InfraCluster.setStatus
  split
  · next vm hvm => exact h.put hvm rfl rfl rfl
  · exact h

end InfraCluster

/-! ### Sound tenant clusters -/

namespace Machine

/-- A machine that was read from a document and has this namespace and name. -/
structure Filed (ns name : String) (m : Machine) : Prop where
  read : ∃ v, ofJson? v = some m
  ns : m.metadata.ns.getD "" = ns
  name : m.metadata.name.getD "" = name

variable {before after stored r : Machine} {patch : Json}

theorem name_of_patch? (hread : ∃ v, ofJson? v = some stored)
    (hpatch : patch? before after = some patch)
    (h : ofJson? (stored.toJson.mergePatch patch) = some r) :
    r.metadata.name = stored.metadata.name ∧ r.metadata.ns = stored.metadata.ns := by
  obtain ⟨v, hv⟩ := hread
  obtain ⟨r', hr', hrebased⟩ := exists_rebased (wellFormed_of_ofJson? hv) hpatch
  obtain rfl := Option.some.inj (hr'.symm.trans h)
  rw [hrebased.others]
  exact ⟨rfl, rfl⟩

theorem name_of_statusPatch? {now : Instant} (hread : ∃ v, ofJson? v = some stored)
    (hpatch : statusPatch? before after now = some patch)
    (h : ofJson? (stored.toJson.mergePatch patch) = some r) :
    r.metadata.name = stored.metadata.name ∧ r.metadata.ns = stored.metadata.ns := by
  obtain ⟨v, hv⟩ := hread
  obtain ⟨status, rfl⟩ : ∃ status, patch = .obj [("status", status)] := by
    obtain ⟨-, hsent⟩ := Option.ite_none_left_eq_some.mp hpatch
    exact ⟨_, (Option.some.inj hsent).symm⟩
  obtain ⟨fields, hobj, hmetadata, -, -⟩ := stored.exists_toJson
  have hfind : Entries.find? "metadata" (Json.mergeFields fields [("status", status)]) =
      some stored.metadata.toJson := by
    rw [Json.find?_mergeFields (List.pairwise_singleton _ _), hmetadata]
    rfl
  rw [hobj, Json.mergePatch_obj] at h
  unfold ofJson? at h
  obtain ⟨merged, hmerged, h⟩ := Option.bind_eq_some_iff.mp h
  obtain ⟨metadata, hm, h⟩ := Option.bind_eq_some_iff.mp h
  obtain ⟨spec, -, h⟩ := Option.bind_eq_some_iff.mp h
  obtain ⟨_, -, h⟩ := Option.bind_eq_some_iff.mp h
  obtain rfl := Option.some.inj h
  obtain rfl := Option.some.inj hmerged
  rw [Json.required_of_find? hfind,
    ObjectMeta.ofJson?_toJson (wellFormed_of_ofJson? hv).metadata] at hm
  obtain rfl := Option.some.inj hm
  exact ⟨rfl, rfl⟩

end Machine

namespace TenantCluster

/-- A cluster in which every machine is stored under its own name. -/
def Sound (c : TenantCluster) : Prop :=
  ∀ ns name m, c.machines ns name = some m → m.Filed ns name

variable {c : TenantCluster}

theorem Sound.applyPatch (h : c.Sound) {ns name : String} {patch : Json}
    (hpatch : ∀ stored r, (∃ v, Machine.ofJson? v = some stored) →
      Machine.ofJson? (stored.toJson.mergePatch patch) = some r →
      r.metadata.name = stored.metadata.name ∧ r.metadata.ns = stored.metadata.ns) :
    (c.applyPatch ns name patch).2.Sound := by
  unfold TenantCluster.applyPatch
  cases hstored : c.machines ns name with
  | none => exact h
  | some stored =>
    dsimp only
    cases hr : Machine.ofJson? (stored.toJson.mergePatch patch) with
    | none => exact h
    | some r =>
      intro n m other hother
      obtain ⟨rfl, rfl, rfl⟩ | ⟨-, hold⟩ := Store.cases_of_put hother
      · have hfiled := h _ _ _ hstored
        obtain ⟨hname, hns⟩ := hpatch stored r hfiled.read hr
        exact ⟨⟨_, hr⟩, (congrArg (·.getD "") hns).trans hfiled.ns,
          (congrArg (·.getD "") hname).trans hfiled.name⟩
      · exact h n m other hold

theorem Sound.answer (h : c.Sound) {call : TenantCall} (htame : (Effect.tenant call).Tame) :
    (c.answer call).2.Sound := by
  unfold TenantCluster.answer
  cases c.failures call.operation with
  | some text => exact h
  | none =>
    cases call with
    | patchMachine ns name patch =>
      obtain ⟨before, after, hpatch⟩ := htame
      exact Sound.applyPatch (c := { c with machinePatches := c.machinePatches ++ [patch] }) h
        fun _ _ hread hr => Machine.name_of_patch? hread hpatch hr
    | patchMachineStatus ns name patch =>
      obtain ⟨before, after, now, hpatch⟩ := htame
      exact Sound.applyPatch (c := { c with statusPatches := c.statusPatches ++ [patch] }) h
        fun _ _ hread hr => Machine.name_of_statusPatch? hread hpatch hr
    | getSecret ns name => exact h
    | getConfigMapValue ns name key => exact h
    | deleteNode name =>
      change (c.deleteNode name).2.Sound
      unfold TenantCluster.deleteNode
      split
      · exact h
      · exact h
    | patchNodeProviderId name providerId =>
      change (c.patchNodeProviderId name providerId).2.Sound
      unfold TenantCluster.patchNodeProviderId
      split
      · exact h
      · exact h

end TenantCluster

end MachineActuator
