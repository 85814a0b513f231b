import Mathlib
import MachineActuator.Proofs.Machine.Update

/-! # Machines in sync

A machine is in sync with a virtual machine when it has everything that it would take over of it
(`InSync`).  A machine that was written back after a sync is in sync (`InSync.of_persisted`), and
syncing it once more leaves nothing to write (`InSync.patch?_eq_none`,
`InSync.statusPatch?_eq_none`).  What a machine asks for does not depend on anything a sync
changes, except for the labels and annotations of the virtual machine. -/

namespace MachineActuator

open StringMap (entry)

/-! ### Entries -/

theorem StringMap.insert_eq_self {α : Type} {m : StringMap α} {key : String} {value : α}
    (h : m.get? key = some value) : m.insert key value = m := by
  apply ext_get?
  intro k
  rw [get?_insert]
  split_ifs with hk
  · rw [hk, h]
  · rfl

theorem entry_withEntry (m : Option (StringMap String)) (key value other : String) :
    entry (withEntry m key value) other = if other = key then some value else entry m other :=
  StringMap.get?_insert _ _ _ _

theorem withEntry_eq_self {m : Option (StringMap String)} {key value : String}
    (h : entry m key = some value) : (withEntry m key value).getD .empty = m.getD .empty :=
  StringMap.insert_eq_self h

theorem entry_congr {m n : Option (StringMap String)} (h : m.getD .empty = n.getD .empty)
    (key : String) : entry m key = entry n key := by
  unfold entry
  rw [h]

/-! ### What a machine asks for -/

namespace Scope

variable {settings : Settings} {m : Machine} {s : Scope}

theorem clusterId_eq_entry (m : Machine) :
    clusterId m = (entry m.metadata.labels clusterIdLabel).getD "" := by
  unfold clusterId entry
  cases m.metadata.labels <;> rfl

/-- The virtual machines that the program derives have no kind of machine of their own. -/
theorem instanceType?_renewed (s : Scope) (mode : String) (vm : VirtualMachine) :
    instanceType? (Lifecycle.renewed (s.virtualMachineWith mode) vm) = some "" := by
  have hspec := ((Lifecycle.differs_eq_false_iff (s.plain_virtualMachineWith mode)).mp
    (Lifecycle.differs_renewed (s.virtualMachineWith mode) vm)).1
  unfold instanceType?
  rw [← hspec]
  rfl

/-! ### What a sync sets -/

theorem entry_syncedAnnotations_vmId (annotations : Option (StringMap String))
    (vm : VirtualMachine) :
    entry (syncedAnnotations annotations vm) vmIdAnnotation =
      some (vm.metadata.uid.getD "") := by
  unfold syncedAnnotations
  rw [entry_withEntry, if_neg (by decide), entry_withEntry, if_pos rfl]

theorem entry_syncedAnnotations_state (annotations : Option (StringMap String))
    (vm : VirtualMachine) :
    entry (syncedAnnotations annotations vm) instanceStateAnnotation =
      some (VmState.ofStatus vm.observedStatus).text := by
  unfold syncedAnnotations
  rw [entry_withEntry, if_pos rfl]

theorem entry_syncedLabels_type {vm : VirtualMachine} {type : String}
    (h : instanceType? vm = some type) (labels : Option (StringMap String)) :
    entry (syncedLabels labels vm) instanceTypeLabel = some type := by
  unfold syncedLabels
  rw [h]
  dsimp only
  rw [entry_withEntry, if_pos rfl]

theorem entry_syncedAnnotations_other {key : String} (hvmId : key ≠ vmIdAnnotation)
    (hstate : key ≠ instanceStateAnnotation) (annotations : Option (StringMap String))
    (vm : VirtualMachine) :
    entry (syncedAnnotations annotations vm) key = entry annotations key := by
  unfold syncedAnnotations
  rw [entry_withEntry, if_neg hstate, entry_withEntry, if_neg hvmId]

theorem entry_syncedLabels_other {vm : VirtualMachine} {key : String}
    (h : key = instanceTypeLabel → instanceType? vm = none) (labels : Option (StringMap String)) :
    entry (syncedLabels labels vm) key = entry labels key := by
  unfold syncedLabels
  cases htype : instanceType? vm with
  | none => rfl
  | some type =>
    have hkey : key ≠ instanceTypeLabel := fun hkey => by simp [h hkey] at htype
    exact (entry_withEntry _ _ _ _).trans (if_neg hkey)

theorem entry_syncedLabels_clusterId (labels : Option (StringMap String)) (vm : VirtualMachine) :
    entry (syncedLabels labels vm) clusterIdLabel = entry labels clusterIdLabel :=
  entry_syncedLabels_other (fun h => absurd h (by decide)) labels

/-! ### Machines in sync -/

/-- The machine has everything that it would take over. -/
structure InSync (vm : VirtualMachine) (vmi : VirtualMachineInstance) (providerId : String)
    (ips : List Ipv4) (m : Machine) : Prop where
  type : ∀ type, instanceType? vm = some type →
    entry m.metadata.labels instanceTypeLabel = some type
  vmId : entry m.metadata.annotations vmIdAnnotation = some (vm.metadata.uid.getD "")
  state : entry m.metadata.annotations instanceStateAnnotation =
    some (VmState.ofStatus vm.observedStatus).text
  providerId : m.spec.providerId = some providerId
  addresses : (m.status.getD {}).addresses = addressesOf (vmi.metadata.name.getD "") ips
  providerStatus : (m.status.getD {}).providerStatus =
    some (ProviderStatus.toJson ⟨vm.observedStatus⟩)

variable {vm : VirtualMachine} {vmi : VirtualMachineInstance} {providerId : String}
  {ips : List Ipv4}

/-- A machine that was written back after a sync is in sync, if the old provider status had no
fields of its own. -/
theorem InSync.of_persisted {c c' : TenantCluster} {r : Machine}
    (h : Operation.Persisted m (syncedMachine m vm vmi providerId ips) ⟨vm.observedStatus⟩ c c' r)
    (hsorted : ((m.status.getD {}).providerStatus.getD .null).Sorted)
    (hclosed : ProviderStatus.Closed ((m.status.getD {}).providerStatus.getD .null)) :
    InSync vm vmi providerId ips r := by
  refine ⟨?_, ?_, ?_, h.providerId, h.addresses, ?_⟩
  · intro type htype
    exact (entry_congr h.labels _).trans (entry_syncedLabels_type htype _)
  · exact (entry_congr h.annotations _).trans (entry_syncedAnnotations_vmId _ _)
  · exact (entry_congr h.annotations _).trans (entry_syncedAnnotations_state _ _)
  · rw [h.providerStatus, (ProviderStatus.mergePatch_toJson_iff hsorted _).mpr hclosed]

/-- Renewing the virtual machine leaves everything that is taken over of it. -/
theorem InSync.renewed (h : InSync vm vmi providerId ips m) (htype : instanceType? vm = some "")
    (s : Scope) (mode : String) :
    InSync (Lifecycle.renewed (s.virtualMachineWith mode) vm) vmi providerId ips m := by
  refine ⟨?_, ?_, ?_, h.providerId, h.addresses, ?_⟩
  · intro type hrenewed
    rw [instanceType?_renewed] at hrenewed
    obtain rfl := Option.some.inj hrenewed
    exact h.type "" htype
  · rw [Lifecycle.renewed_uid]
    exact h.vmId
  · rw [Lifecycle.renewed_observedStatus]
    exact h.state
  · rw [Lifecycle.renewed_observedStatus]
    exact h.providerStatus

theorem InSync.patch?_eq_none (h : InSync vm vmi providerId ips m) :
    Machine.patch? m (syncedMachine m vm vmi providerId ips) = none := by
  refine Machine.patch?_eq_none_iff.mpr ⟨⟨?_, ?_⟩, h.providerId⟩
  · have hstate : entry (withEntry m.metadata.annotations vmIdAnnotation
        (vm.metadata.uid.getD "")) instanceStateAnnotation =
        some (VmState.ofStatus vm.observedStatus).text := by
      rw [entry_withEntry, if_neg (by decide)]
      exact h.state
    exact ((withEntry_eq_self hstate).trans (withEntry_eq_self h.vmId)).symm
  · change _ = (syncedLabels m.metadata.labels vm).getD .empty
    unfold syncedLabels
    split
    · next type htype => exact (withEntry_eq_self (h.type type htype)).symm
    · rfl

theorem InSync.statusPatch?_eq_none (h : InSync vm vmi providerId ips m) (now : Instant) :
    Machine.statusPatch? m (syncedMachine m vm vmi providerId ips) now = none :=
  (Machine.statusPatch?_eq_none_iff rfl).mpr ⟨h.addresses, h.providerStatus⟩

end Scope

end MachineActuator
