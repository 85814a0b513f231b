import Mathlib
import MachineActuator.Proofs.Cluster.Answer
import MachineActuator.Proofs.Machine.Renumbering
import MachineActuator.Proofs.Time.Rfc3339

/-! # New uids

Whatever is asked of a cluster, the virtual machines that have come since some moment have uids that
were handed out since, and no two have the same (`InfraCluster.NumberedSince.answer`).  So the uids
that one cluster has given to new virtual machines can be renumbered into those that another has
given to virtual machines of the same names (`InfraCluster.NumberedSince.exists_renumbering`). -/

namespace MachineActuator.InfraCluster

theorem uid_injective : Function.Injective uid := by
  intro n k h
  unfold uid at h
  have hlists := congrArg String.toList h
  rw [String.toList_append, String.toList_append] at hlists
  have hvalues := congrArg Rfc3339.valueOf (List.append_cancel_left hlists)
  rwa [Rfc3339.valueOf_padded, Rfc3339.valueOf_padded] at hvalues

/-- One renumbering takes finitely many new uids to others. -/
theorem exists_renumbers {ι : Type} [Finite ι] {first : Nat} {f g : ι → String}
    (hf : Function.Injective f) (hg : Function.Injective g)
    (hfnew : ∀ i, ∃ n, first ≤ n ∧ f i = uid n) (hgnew : ∀ i, ∃ n, first ≤ n ∧ g i = uid n) :
    ∃ ρ, Renumbers first ρ ∧ ∀ i, ρ (f i) = g i := by
  classical
  obtain ⟨σ, hσ⟩ := Equiv.Perm.exists_extending_pair
    (fun i => (⟨f i, hfnew i⟩ : { id // ∃ n, first ≤ n ∧ id = uid n })) (fun i => ⟨g i, hgnew i⟩)
    (fun i j hij => hf (congrArg Subtype.val hij)) fun i j hij => hg (congrArg Subtype.val hij)
  refine ⟨Equiv.Perm.ofSubtype σ, ?_, fun i => ?_⟩
  · intro id hid
    exact Equiv.Perm.ofSubtype_apply_of_not_mem σ fun ⟨n, hn, hidn⟩ => hid n hn hidn
  · exact (Equiv.Perm.ofSubtype_apply_coe σ ⟨f i, hfnew i⟩).trans (congrArg Subtype.val (hσ i))

/-- The virtual machines that were not there at the start have uids that were handed out since, and
no two have the same. -/
structure NumberedSince (start c : InfraCluster) : Prop where
  next : start.nextUid ≤ c.nextUid
  new : ∀ ns name vm, start.virtualMachines ns name = none → c.virtualMachines ns name = some vm →
    ∃ n, start.nextUid ≤ n ∧ n < c.nextUid ∧ vm.metadata.uid = some (uid n)
  distinct : ∀ ns name ns' name' vm vm', start.virtualMachines ns name = none →
    start.virtualMachines ns' name' = none → c.virtualMachines ns name = some vm →
    c.virtualMachines ns' name' = some vm' → vm.metadata.uid = vm'.metadata.uid →
    ns = ns' ∧ name = name'

namespace NumberedSince

variable {start c c' : InfraCluster}

theorem refl (start : InfraCluster) : NumberedSince start start := by
  refine ⟨le_rfl, ?_, ?_⟩
  · intro ns name vm hnone hvm
    simp [hnone] at hvm
  · intro ns name ns' name' vm vm' hnone _ hvm
    simp [hnone] at hvm

/-- Virtual machines may go, and stay as long as they keep their uids. -/
theorem of_uids (h : NumberedSince start c) (hnext : c.nextUid = c'.nextUid)
    (huids : ∀ ns name vm', c'.virtualMachines ns name = some vm' →
      ∃ vm, c.virtualMachines ns name = some vm ∧ vm.metadata.uid = vm'.metadata.uid) :
    NumberedSince start c' := by
  refine ⟨hnext ▸ h.next, ?_, ?_⟩
  · intro ns name vm' hnone hvm'
    obtain ⟨vm, hvm, huid⟩ := huids ns name vm' hvm'
    rw [← hnext, ← huid]
    exact h.new ns name vm hnone hvm
  · intro ns name ns' name' vm₁' vm₂' hnone₁ hnone₂ hvm₁' hvm₂' heq
    obtain ⟨vm₁, hvm₁, huid₁⟩ := huids ns name vm₁' hvm₁'
    obtain ⟨vm₂, hvm₂, huid₂⟩ := huids ns' name' vm₂' hvm₂'
    exact h.distinct ns name ns' name' vm₁ vm₂ hnone₁ hnone₂ hvm₁ hvm₂
      (huid₁.trans (heq.trans huid₂.symm))

/-- A virtual machine with the next uid may be put in place. -/
theorem put (h : NumberedSince start c) (hnext : c'.nextUid = c.nextUid + 1) {ns name : String}
    {vm : VirtualMachine} (huid : vm.metadata.uid = some (uid c.nextUid))
    (hvms : c'.virtualMachines = c.virtualMachines.put ns name vm) : NumberedSince start c' := by
  have hcases (n m : String) (vm' : VirtualMachine) (hvm' : c'.virtualMachines n m = some vm') :
      (n = ns ∧ m = name ∧ vm'.metadata.uid = some (uid c.nextUid)) ∨
        c.virtualMachines n m = some vm' := by
    rw [hvms] at hvm'
    obtain ⟨rfl, rfl, rfl⟩ | ⟨-, hold⟩ := Store.cases_of_put hvm'
    · exact .inl ⟨rfl, rfl, huid⟩
    · exact .inr hold
  have hfresh (n m : String) (vm' : VirtualMachine) (hnone : start.virtualMachines n m = none)
      (hvm' : c.virtualMachines n m = some vm') : vm'.metadata.uid ≠ some (uid c.nextUid) := by
    obtain ⟨k, -, hk, hk'⟩ := h.new n m vm' hnone hvm'
    intro heq
    exact hk.ne (uid_injective (Option.some.inj (hk'.symm.trans heq)))
  refine ⟨by have := h.next; omega, ?_, ?_⟩
  · intro n m vm' hnone hvm'
    obtain ⟨-, -, huid'⟩ | hvm' := hcases n m vm' hvm'
    · exact ⟨c.nextUid, h.next, by omega, huid'⟩
    · obtain ⟨k, hk, hk', huid'⟩ := h.new n m vm' hnone hvm'
      exact ⟨k, hk, by omega, huid'⟩
  · intro n m n' m' vm₁ vm₂ hnone₁ hnone₂ hvm₁ hvm₂ heq
    obtain ⟨rfl, rfl, huid₁⟩ | hvm₁ := hcases n m vm₁ hvm₁
    · obtain ⟨rfl, rfl, -⟩ | hvm₂ := hcases n' m' vm₂ hvm₂
      · exact ⟨rfl, rfl⟩
      · exact absurd (heq.symm.trans huid₁) (hfresh n' m' vm₂ hnone₂ hvm₂)
    · obtain ⟨rfl, rfl, huid₂⟩ | hvm₂ := hcases n' m' vm₂ hvm₂
      · exact absurd (heq.trans huid₂) (hfresh n m vm₁ hnone₁ hvm₁)
      · exact h.distinct n m n' m' vm₁ vm₂ hnone₁ hnone₂ hvm₁ hvm₂ heq

theorem answer (h : NumberedSince start c) (call : InfraCall) :
    NumberedSince start (c.answer call).2 := by
  have hchanges := c.changes_answer call
  generalize (c.answer call).2 = after at hchanges ⊢
  cases hchanges with
  | unchanged => exact h
  | created => exact h.put rfl rfl rfl
  | @updated ns vm stored hstored =>
    refine h.of_uids rfl fun n m vm' hvm' => ?_
    obtain ⟨rfl, rfl, rfl⟩ | ⟨-, hold⟩ := Store.cases_of_put hvm'
    · exact ⟨stored, hstored, rfl⟩
    · exact ⟨vm', hold, rfl⟩
  | deleted => exact h.of_uids rfl fun n m vm' hvm' => ⟨vm', (Store.of_remove hvm').2, rfl⟩
  | provided => exact h.of_uids rfl fun n m vm' hvm' => ⟨vm', hvm', rfl⟩

variable {ι : Type} {ns : String} {name : ι → String}

/-- The uids of new virtual machines with different names. -/
theorem exists_uids (h : NumberedSince start c) (hname : Function.Injective name)
    (hnone : ∀ i, start.virtualMachines ns (name i) = none) {vm : ι → VirtualMachine}
    (hvm : ∀ i, c.virtualMachines ns (name i) = some (vm i)) :
    ∃ f : ι → String, Function.Injective f ∧ (∀ i, ∃ n, start.nextUid ≤ n ∧ f i = uid n) ∧
      ∀ i, (vm i).metadata.uid = some (f i) := by
  have hnew (i : ι) : ∃ n, start.nextUid ≤ n ∧ (vm i).metadata.uid = some (uid n) := by
    obtain ⟨n, hn, -, huid⟩ := h.new ns (name i) (vm i) (hnone i) (hvm i)
    exact ⟨n, hn, huid⟩
  choose number hnumber huid using hnew
  refine ⟨fun i => uid (number i), ?_, fun i => ⟨number i, hnumber i, rfl⟩, huid⟩
  intro i j hij
  have heq : (vm i).metadata.uid = (vm j).metadata.uid :=
    (huid i).trans ((congrArg some hij).trans (huid j).symm)
  exact hname (h.distinct ns _ ns _ _ _ (hnone i) (hnone j) (hvm i) (hvm j) heq).2

/-- One renumbering takes the uids of new virtual machines in one cluster to those of their
namesakes in the other. -/
theorem exists_renumbering [Finite ι] {c₁ c₂ : InfraCluster} (h₁ : NumberedSince start c₁)
    (h₂ : NumberedSince start c₂) (ns : String) (hname : Function.Injective name) :
    ∃ ρ, Renumbers start.nextUid ρ ∧ ∀ i vm₁ vm₂, start.virtualMachines ns (name i) = none →
      c₁.virtualMachines ns (name i) = some vm₁ → c₂.virtualMachines ns (name i) = some vm₂ →
      vm₂.metadata.uid = vm₁.metadata.uid.map ρ := by
  let New := { i : ι // start.virtualMachines ns (name i) = none ∧
    (∃ vm₁, c₁.virtualMachines ns (name i) = some vm₁) ∧
    ∃ vm₂, c₂.virtualMachines ns (name i) = some vm₂ }
  have hnew : Function.Injective fun i : New => name i := hname.comp Subtype.val_injective
  have hvm₁ (i : New) := i.2.2.1
  have hvm₂ (i : New) := i.2.2.2
  choose vm₁ hvm₁ using hvm₁
  choose vm₂ hvm₂ using hvm₂
  obtain ⟨f, hf, hfnew, hf'⟩ := h₁.exists_uids hnew (fun i => i.2.1) hvm₁
  obtain ⟨g, hg, hgnew, hg'⟩ := h₂.exists_uids hnew (fun i => i.2.1) hvm₂
  obtain ⟨ρ, hρ, hfg⟩ := exists_renumbers hf hg hfnew hgnew
  refine ⟨ρ, hρ, fun i vm vm' hi hvm hvm' => ?_⟩
  obtain ⟨j, rfl⟩ : ∃ j : New, j.1 = i := ⟨⟨i, hi, ⟨vm, hvm⟩, vm', hvm'⟩, rfl⟩
  obtain rfl := Option.some.inj ((hvm₁ j).symm.trans hvm)
  obtain rfl := Option.some.inj ((hvm₂ j).symm.trans hvm')
  rw [hf', hg', Option.map_some, hfg]

end NumberedSince

end MachineActuator.InfraCluster
