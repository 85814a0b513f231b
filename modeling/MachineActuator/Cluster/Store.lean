/-! # Stores of objects

What a cluster holds of one kind, by namespace and name. -/

namespace MachineActuator

universe u

/-- The objects of one kind. -/
abbrev Store (α : Type u) := String → String → Option α

namespace Store

variable {α : Type u}

def empty : Store α := fun _ _ => none

/-- Puts an object under a namespace and a name. -/
def put (s : Store α) (ns name : String) (value : α) : Store α := fun n m =>
  if n = ns ∧ m = name then some value else s n m

/-- Takes away the object under a namespace and a name. -/
def remove (s : Store α) (ns name : String) : Store α := fun n m =>
  if n = ns ∧ m = name then none else s n m

@[simp] theorem put_same (s : Store α) (ns name : String) (value : α) :
    s.put ns name value ns name = some value := by simp [put]

theorem put_of_ne (s : Store α) {ns name n m : String} (value : α) (h : ¬ (n = ns ∧ m = name)) :
    s.put ns name value n m = s n m := by simp [put, h]

@[simp] theorem remove_same (s : Store α) (ns name : String) : s.remove ns name ns name = none := by
  simp [remove]

theorem remove_of_ne (s : Store α) {ns name n m : String} (h : ¬ (n = ns ∧ m = name)) :
    s.remove ns name n m = s n m := by simp [remove, h]

theorem put_of_eq_some {s : Store α} {ns name : String} {value : α}
    (h : s ns name = some value) : s.put ns name value = s := by
  funext n m
  by_cases hk : n = ns ∧ m = name
  · obtain ⟨rfl, rfl⟩ := hk; simp [h]
  · rw [put_of_ne s value hk]

end Store

end MachineActuator
