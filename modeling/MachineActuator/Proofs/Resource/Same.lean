import Mathlib
import MachineActuator.Proofs.Machine.Scope

/-! # Comparing specifications

Specifications are compared up to the sign of float zeros, which the sets of managed fields in their
metadata can hold.  Everything is the same as itself (`VirtualMachineSpec.same_refl`), and what
records no managed fields, such as every specification that is derived from a machine, is the same
as itself only (`VirtualMachineSpec.Plain.same_iff`). -/

namespace MachineActuator

section

variable {α : Type} {r : α → α → Bool}

theorem isEqv_refl (h : ∀ a, r a a = true) (l : List α) : l.isEqv l r = true := by
  induction l with
  | nil => rfl
  | cons a rest ih => exact Bool.and_eq_true_iff.mpr ⟨h a, ih⟩

theorem isEqv_iff {l other : List α} (h : ∀ a ∈ l, ∀ b, r a b = true ↔ a = b) :
    l.isEqv other r = true ↔ l = other := by
  induction l generalizing other with
  | nil => cases other <;> simp [List.isEqv]
  | cons a rest ih =>
    obtain ⟨ha, hrest⟩ := List.forall_mem_cons.mp h
    cases other with
    | nil => simp [List.isEqv]
    | cons b others => simp [List.isEqv, ha b, ih hrest]

end

theorem Json.sameOption_iff {α : Type} {same : α → α → Bool} {x y : Option α}
    (h : ∀ a, x = some a → ∀ b, same a b = true ↔ a = b) :
    Json.sameOption same x y = true ↔ x = y := by
  cases x with
  | none => cases y <;> simp [sameOption]
  | some a => cases y <;> simp [sameOption, h a rfl]

/-! ### Equal values are the same -/

theorem ManagedFields.same_refl (a : ManagedFields) : a.same a = true := by
  simp [same, Json.sameOption_refl Json.same_refl]

theorem ObjectMeta.same_refl (a : ObjectMeta) : a.same a = true := by
  have hfields : Json.sameOption (fun x y => x.isEqv y ManagedFields.same)
      a.managedFields a.managedFields = true :=
    Json.sameOption_refl (isEqv_refl ManagedFields.same_refl) _
  simp [same, hfields]

theorem DataVolumeTemplate.same_refl (a : DataVolumeTemplate) : a.same a = true := by
  simp [same, ObjectMeta.same_refl]

theorem InstanceTemplate.same_refl (a : InstanceTemplate) : a.same a = true := by
  simp [same, Json.sameOption_refl ObjectMeta.same_refl]

theorem VirtualMachineSpec.same_refl (a : VirtualMachineSpec) : a.same a = true := by
  simp [same, isEqv_refl DataVolumeTemplate.same_refl,
    Json.sameOption_refl InstanceTemplate.same_refl]

/-! ### Without managed fields -/

theorem ObjectMeta.same_iff {a b : ObjectMeta} (h : a.managedFields = none) :
    a.same b = true ↔ a = b := by
  constructor
  · intro hsame
    obtain ⟨hrest, hfields⟩ := Bool.and_eq_true_iff.mp hsame
    have hb : b.managedFields = none := by
      rw [h] at hfields
      exact ((Json.sameOption_iff (by simp)).mp hfields).symm
    calc
      a = { a with managedFields := none } := by rw [← h]
      _ = { b with managedFields := none } := of_decide_eq_true hrest
      _ = b := by rw [← hb]
  · rintro rfl
    exact a.same_refl

theorem DataVolumeTemplate.same_iff {a b : DataVolumeTemplate}
    (h : a.metadata.managedFields = none) : a.same b = true ↔ a = b := by
  cases a
  cases b
  simp [same, ObjectMeta.same_iff h, and_assoc, and_comm, and_left_comm]

theorem InstanceTemplate.same_iff {a b : InstanceTemplate}
    (h : ∀ m, a.metadata = some m → m.managedFields = none) : a.same b = true ↔ a = b := by
  cases a
  cases b
  simp [same, Json.sameOption_iff fun m hm _ => ObjectMeta.same_iff (h m hm), and_comm]

namespace VirtualMachineSpec

/-- The specification records no managed fields. -/
structure Plain (spec : VirtualMachineSpec) : Prop where
  volumes : ∀ t ∈ spec.dataVolumeTemplates, t.metadata.managedFields = none
  instances : ∀ t, spec.template = some t → ∀ m, t.metadata = some m → m.managedFields = none

theorem Plain.same_iff {a b : VirtualMachineSpec} (h : a.Plain) : a.same b = true ↔ a = b := by
  have hvolumes : a.dataVolumeTemplates.isEqv b.dataVolumeTemplates DataVolumeTemplate.same = true ↔
      a.dataVolumeTemplates = b.dataVolumeTemplates :=
    isEqv_iff fun t ht _ => DataVolumeTemplate.same_iff (h.volumes t ht)
  have hinstances : Json.sameOption InstanceTemplate.same a.template b.template = true ↔
      a.template = b.template :=
    Json.sameOption_iff fun t ht _ => InstanceTemplate.same_iff (h.instances t ht)
  cases a
  cases b
  simp [same, hvolumes, hinstances, and_assoc]

end VirtualMachineSpec

namespace Scope

theorem plain_virtualMachineWith (s : Scope) (mode : String) :
    (s.virtualMachineWith mode).spec.Plain where
  volumes t ht := by
    obtain rfl := List.mem_singleton.mp ht
    rfl
  instances t ht m hm := by
    obtain rfl := Option.some.inj ht
    obtain rfl := Option.some.inj hm
    rfl

theorem plain_of_virtualMachine {s : Scope} {desired : VirtualMachine}
    (h : s.virtualMachine = .ok desired) : desired.spec.Plain := by
  obtain ⟨-, mode, -, rfl⟩ := virtualMachine_eq_ok_iff.mp h
  exact s.plain_virtualMachineWith mode

end Scope

end MachineActuator
