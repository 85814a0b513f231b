import Mathlib
import MachineActuator.Cluster.Infra
import MachineActuator.Proofs.Machine.Sync

/-! # Renumbered uids

Uids are handed out by a counter, so which one a new virtual machine gets depends on who else asks
at the same time.  Two machines that have taken over virtual machines alike but for their uids are
alike but for the annotation that copies the uid, and they stay so when what differs is written back
to the machine that was read (`Twins.of_synced`). -/

namespace MachineActuator

open StringMap (entry)

/-! ### Renumbering -/

/-- Only uids from this number on are renumbered. -/
def Renumbers (first : Nat) (ρ : Equiv.Perm String) : Prop :=
  ∀ id, (∀ n, first ≤ n → id ≠ InfraCluster.uid n) → ρ id = id

def VirtualMachine.renumbered (ρ : Equiv.Perm String) (vm : VirtualMachine) : VirtualMachine :=
  { vm with metadata := { vm.metadata with uid := vm.metadata.uid.map ρ } }

def VirtualMachine.withUid (vm : VirtualMachine) (id : String) : VirtualMachine :=
  { vm with metadata := { vm.metadata with uid := some id } }

/-- Annotations with the copy of a uid renumbered. -/
def renumberedEntries (ρ : Equiv.Perm String) (annotations : StringMap String) : StringMap String :=
  match annotations.get? vmIdAnnotation with
  | some id => annotations.insert vmIdAnnotation (ρ id)
  | none => annotations

def Machine.renumbered (ρ : Equiv.Perm String) (m : Machine) : Machine :=
  { m with
    metadata :=
      { m.metadata with annotations := m.metadata.annotations.map (renumberedEntries ρ) } }

/-- The machine carries no copy of a uid from this number on. -/
def Machine.NumberedBelow (first : Nat) (m : Machine) : Prop :=
  ∀ id, entry m.metadata.annotations vmIdAnnotation = some id →
    ∀ n, first ≤ n → id ≠ InfraCluster.uid n

/-- The machine without the time of its last update. -/
def Machine.unstamped (m : Machine) : Machine :=
  { m with status := m.status.map fun s => { s with lastUpdated := none } }

variable {ρ : Equiv.Perm String} {first : Nat} {m r₁ r₂ : Machine}

@[simp] theorem VirtualMachine.renumbered_one (vm : VirtualMachine) : vm.renumbered 1 = vm := by
  unfold renumbered
  rw [Equiv.Perm.coe_one, Option.map_id]
  rfl

theorem VirtualMachine.renumbered_withUid (ρ : Equiv.Perm String) (vm : VirtualMachine)
    (id : String) : (vm.withUid id).renumbered ρ = vm.withUid (ρ id) := rfl

theorem get?_renumberedEntries (ρ : Equiv.Perm String) (annotations : StringMap String)
    (key : String) :
    (renumberedEntries ρ annotations).get? key =
      if key = vmIdAnnotation then (annotations.get? key).map ρ else annotations.get? key := by
  unfold renumberedEntries
  cases hid : annotations.get? vmIdAnnotation with
  | some id =>
    dsimp only
    rw [StringMap.get?_insert]
    split_ifs with hkey
    · rw [hkey, hid, Option.map_some]
    · rfl
  | none =>
    dsimp only
    split_ifs with hkey
    · rw [hkey, hid, Option.map_none]
    · rfl

theorem entry_map_renumberedEntries (ρ : Equiv.Perm String)
    (annotations : Option (StringMap String)) (key : String) :
    entry (annotations.map (renumberedEntries ρ)) key =
      if key = vmIdAnnotation then (entry annotations key).map ρ else entry annotations key := by
  cases annotations with
  | none => simp [entry]
  | some annotations => exact get?_renumberedEntries ρ annotations key

theorem Machine.renumbered_eq_self
    (h : ∀ id, entry m.metadata.annotations vmIdAnnotation = some id → ρ id = id) :
    m.renumbered ρ = m := by
  have hannotations :
      m.metadata.annotations.map (renumberedEntries ρ) = m.metadata.annotations := by
    cases hm : m.metadata.annotations with
    | none => rfl
    | some annotations =>
      rw [hm] at h
      rw [Option.map_some]
      congr 1
      apply StringMap.ext_get?
      intro key
      rw [get?_renumberedEntries]
      split_ifs with hkey
      · rw [hkey]
        cases hid : annotations.get? vmIdAnnotation with
        | none => rfl
        | some id => exact congrArg some (h id hid)
      · rfl
  unfold renumbered
  rw [hannotations]

@[simp] theorem Machine.renumbered_one (m : Machine) : m.renumbered 1 = m :=
  Machine.renumbered_eq_self fun _ _ => rfl

/-- A copy of a uid that was handed out before is not renumbered. -/
theorem Machine.NumberedBelow.renumbered (h : m.NumberedBelow first) (hρ : Renumbers first ρ) :
    m.renumbered ρ = m :=
  Machine.renumbered_eq_self fun id hid => hρ id (h id hid)

/-! ### Machines written back -/

/-- The machine `m` becomes `r` when what differs from `after` in metadata and specification is
written back. -/
def Written (m after r : Machine) : Prop :=
  match Machine.patch? m after with
  | none => r = m
  | some patch => Machine.ofJson? (m.toJson.mergePatch patch) = some r

theorem Written.of_none {after : Machine} (h : Written m after r₁)
    (hpatch : Machine.patch? m after = none) : r₁ = m := by
  unfold Written at h
  rw [hpatch] at h
  exact h

theorem Written.of_some {after : Machine} {patch : Json} (h : Written m after r₁)
    (hpatch : Machine.patch? m after = some patch) :
    Machine.ofJson? (m.toJson.mergePatch patch) = some r₁ := by
  unfold Written at h
  rw [hpatch] at h
  exact h

/-- Two machines alike up to the renumberings `P`, with the status of `m`. -/
structure WrittenAlike (P : Equiv.Perm String → Prop) (m r₁ r₂ : Machine) : Prop where
  renumbered : ∀ ρ, P ρ → r₂ = r₁.renumbered ρ
  wellFormed₁ : r₁.WellFormed
  wellFormed₂ : r₂.WellFormed
  status₁ : r₁.status = m.status
  status₂ : r₂.status = m.status

/-- Two machines alike up to the renumberings `P` and the times of their last updates. -/
def StoredAlike (P : Equiv.Perm String → Prop) (r₁ r₂ : Machine) : Prop :=
  ∀ ρ, P ρ → r₂.unstamped = (r₁.renumbered ρ).unstamped

theorem WrittenAlike.stored {P : Equiv.Perm String → Prop} (h : WrittenAlike P m r₁ r₂) :
    StoredAlike P r₁ r₂ := fun ρ hρ => congrArg Machine.unstamped (h.renumbered ρ hρ)

/-- The machine `m`, taken over in two ways, becomes two machines alike up to the renumberings `P`
when it is written back. -/
structure Twins (P : Equiv.Perm String → Prop) (m after₁ after₂ : Machine) : Prop where
  key₁ : after₁.metadata.ns = m.metadata.ns ∧ after₁.metadata.displayName = m.metadata.displayName
  key₂ : after₂.metadata.ns = m.metadata.ns ∧ after₂.metadata.displayName = m.metadata.displayName
  status : after₂.status = after₁.status
  document : ∃ status : ProviderStatus,
    (after₁.status.getD {}).providerStatus = some status.toJson
  sent : (Machine.patch? m after₁).isSome = (Machine.patch? m after₂).isSome
  unwritten : ∀ ρ, P ρ → m.renumbered ρ = m
  written : ∃ r₁ r₂, Written m after₁ r₁ ∧ Written m after₂ r₂ ∧ WrittenAlike P m r₁ r₂

/-- What is written back is well-formed, with the status that was read. -/
theorem exists_written (hm : m.WellFormed) (after : Machine) :
    ∃ r, Written m after r ∧ r.WellFormed ∧ r.status = m.status := by
  unfold Written
  cases hpatch : Machine.patch? m after with
  | none => exact ⟨m, rfl, hm, rfl⟩
  | some patch =>
    obtain ⟨r, hr, hrebased⟩ := Machine.exists_rebased hm hpatch
    refine ⟨r, hr, Machine.wellFormed_of_ofJson? hr, ?_⟩
    rw [hrebased.others]
    rfl

variable {P : Equiv.Perm String → Prop} {vm : VirtualMachine} {vmi : VirtualMachineInstance}
  {providerId : String} {ips : List Ipv4} {id₁ id₂ : String}

/-- Taken over in one way only, a machine becomes one machine. -/
theorem Twins.self (hm : m.WellFormed) :
    Twins (· = 1) m (Scope.syncedMachine m vm vmi providerId ips)
      (Scope.syncedMachine m vm vmi providerId ips) := by
  obtain ⟨r, hr, hwf, hstatus⟩ := exists_written hm (Scope.syncedMachine m vm vmi providerId ips)
  refine ⟨⟨rfl, rfl⟩, ⟨rfl, rfl⟩, rfl, ⟨_, rfl⟩, rfl, ?_, r, r, hr, hr, ?_, hwf, hwf, hstatus,
    hstatus⟩
  · rintro ρ rfl
    exact m.renumbered_one
  · rintro ρ rfl
    exact r.renumbered_one.symm

/-- Maps that agree are both there or both absent, if they have an entry. -/
theorem eq_of_entry {a b : Option (StringMap String)} {key value : String}
    (h : ∀ k, entry a k = entry b k) (hkey : entry a key = some value) : a = b := by
  have hsome {x : Option (StringMap String)} (hx : entry x key = some value) :
      x = some (x.getD .empty) := by
    cases x with
    | none => simp [entry] at hx
    | some x => rfl
  rw [hsome hkey, hsome ((h key).symm.trans hkey), StringMap.getD_eq_of_entry h]

theorem entry_syncedAnnotations_withUid (annotations : Option (StringMap String))
    (vm : VirtualMachine) (id key : String) :
    entry (Scope.syncedAnnotations annotations (vm.withUid id)) key =
      if key = instanceStateAnnotation then some (VmState.ofStatus vm.observedStatus).text
      else if key = vmIdAnnotation then some id else entry annotations key := by
  unfold Scope.syncedAnnotations
  rw [entry_withEntry, entry_withEntry]
  rfl

/-- The labels that are taken over are the same map wherever they have the same entries, for they
have the id of the cluster. -/
theorem labels_of_synced {labels labels₁ labels₂ : Option (StringMap String)} {cluster : String}
    (hcluster : entry labels clusterIdLabel = some cluster)
    (h₁ : labels₁.getD .empty = (Scope.syncedLabels labels vm).getD .empty)
    (h₂ : labels₂.getD .empty = (Scope.syncedLabels labels vm).getD .empty) :
    labels₂ = labels₁ := by
  have hlabel : entry labels₂ clusterIdLabel = some cluster :=
    (entry_congr h₂ _).trans ((Scope.entry_syncedLabels_clusterId _ _).trans hcluster)
  exact eq_of_entry (fun k => entry_congr (h₂.trans h₁.symm) k) hlabel

/-- The annotations that are taken over from two virtual machines are renumbered into each other. -/
theorem annotations_of_synced {annotations annotations₁ annotations₂ : Option (StringMap String)}
    (h₁ : annotations₁.getD .empty =
      (Scope.syncedAnnotations annotations (vm.withUid id₁)).getD .empty)
    (h₂ : annotations₂.getD .empty =
      (Scope.syncedAnnotations annotations (vm.withUid id₂)).getD .empty) (hρ : ρ id₁ = id₂) :
    annotations₂ = annotations₁.map (renumberedEntries ρ) := by
  have hid₂ : entry annotations₂ vmIdAnnotation = some id₂ :=
    (entry_congr h₂ _).trans (Scope.entry_syncedAnnotations_vmId _ _)
  have hkeys : vmIdAnnotation ≠ instanceStateAnnotation := by decide
  refine eq_of_entry (fun k => ?_) hid₂
  rw [entry_map_renumberedEntries, entry_congr h₁, entry_congr h₂,
    entry_syncedAnnotations_withUid, entry_syncedAnnotations_withUid]
  split_ifs with hstate hvmId
  · exact absurd (hvmId.symm.trans hstate) hkeys
  · rfl
  · exact congrArg some hρ.symm
  · rfl

theorem exists_rebased_of_new (hm : m.WellFormed) (vm : VirtualMachine)
    (vmi : VirtualMachineInstance) (providerId : String) (ips : List Ipv4) {id : String}
    (hnew : entry m.metadata.annotations vmIdAnnotation ≠ some id) :
    ∃ patch r, Machine.patch? m (Scope.syncedMachine m (vm.withUid id) vmi providerId ips) =
        some patch ∧
      Machine.ofJson? (m.toJson.mergePatch patch) = some r ∧
      Machine.Rebased m (Scope.syncedMachine m (vm.withUid id) vmi providerId ips) m r := by
  cases hpatch : Machine.patch? m (Scope.syncedMachine m (vm.withUid id) vmi providerId ips) with
  | none =>
    obtain ⟨⟨hannotations, -⟩, -⟩ := Machine.patch?_eq_none_iff.mp hpatch
    have hentry := entry_congr hannotations vmIdAnnotation
    exact absurd (hentry.trans (Scope.entry_syncedAnnotations_vmId _ _)) hnew
  | some patch =>
    obtain ⟨r, hr, hrebased⟩ := Machine.exists_rebased hm hpatch
    exact ⟨patch, r, rfl, hr, hrebased⟩

/-- Taken over from two virtual machines with new uids, a machine becomes two machines alike. -/
theorem Twins.of_synced (hm : m.WellFormed)
    (hnew₁ : entry m.metadata.annotations vmIdAnnotation ≠ some id₁)
    (hnew₂ : entry m.metadata.annotations vmIdAnnotation ≠ some id₂)
    (hlabel : Scope.clusterId m ≠ "")
    (hP : ∀ ρ, P ρ → m.renumbered ρ = m ∧ ρ id₁ = id₂) :
    Twins P m (Scope.syncedMachine m (vm.withUid id₁) vmi providerId ips)
      (Scope.syncedMachine m (vm.withUid id₂) vmi providerId ips) := by
  obtain ⟨patch₁, r₁, hpatch₁, hr₁, hrebased₁⟩ :=
    exists_rebased_of_new hm vm vmi providerId ips hnew₁
  obtain ⟨patch₂, r₂, hpatch₂, hr₂, hrebased₂⟩ :=
    exists_rebased_of_new hm vm vmi providerId ips hnew₂
  obtain ⟨hlabels₁, hannotations₁, hproviderId₁⟩ := hrebased₁.of_unchanged
  obtain ⟨hlabels₂, hannotations₂, hproviderId₂⟩ := hrebased₂.of_unchanged
  have hothers₁ := hrebased₁.others
  have hothers₂ := hrebased₂.others
  obtain ⟨cluster, hcluster⟩ :
      ∃ cluster, entry m.metadata.labels clusterIdLabel = some cluster := by
    rw [Scope.clusterId_eq_entry] at hlabel
    cases hentry : entry m.metadata.labels clusterIdLabel with
    | none => simp [hentry] at hlabel
    | some cluster => exact ⟨cluster, rfl⟩
  have hlabels : r₂.metadata.labels = r₁.metadata.labels :=
    labels_of_synced hcluster hlabels₁ hlabels₂
  have hproviderId : r₂.spec.providerId = r₁.spec.providerId :=
    hproviderId₂.trans hproviderId₁.symm
  have hrenumbered (ρ : Equiv.Perm String) (hρ : P ρ) : r₂ = r₁.renumbered ρ := by
    rw [hothers₂, hlabels, annotations_of_synced hannotations₁ hannotations₂ (hP ρ hρ).2,
      hproviderId]
    conv_rhs => rw [hothers₁]
    rfl
  refine ⟨⟨rfl, rfl⟩, ⟨rfl, rfl⟩, rfl, ⟨_, rfl⟩, ?_, fun ρ hρ => (hP ρ hρ).1, r₁, r₂, ?_, ?_,
    hrenumbered, Machine.wellFormed_of_ofJson? hr₁, Machine.wellFormed_of_ofJson? hr₂, ?_, ?_⟩
  · rw [hpatch₁, hpatch₂]
    rfl
  · unfold Written
    rw [hpatch₁]
    exact hr₁
  · unfold Written
    rw [hpatch₂]
    exact hr₂
  · rw [hothers₁]
    rfl
  · rw [hothers₂]
    rfl

end MachineActuator
