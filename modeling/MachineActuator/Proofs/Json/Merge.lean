import Mathlib
import MachineActuator.Json.MergePatch

/-! # Look-ups in merged objects

A merge patch acts key by key: what a key has after the merge depends only on what the target and
the patch have under it (`find?_mergeFields`).  This holds of patches in key order; the order of
the target's fields does not matter, and it is kept (`sorted_mergeFields`). -/

namespace MachineActuator

/-! ### Fields -/

namespace Entries

theorem sorted_of_cons {α : Type*} {e : String × α} {rest : List (String × α)}
    (h : Sorted (e :: rest)) : Sorted rest := (List.pairwise_cons.mp h).2

theorem find?_of_sorted_cons {α : Type*} {k : String} {v : α} {rest : List (String × α)}
    (h : Sorted ((k, v) :: rest)) : find? k rest = none :=
  find?_eq_none_of_lt (List.pairwise_cons.mp h).1

theorem mem_of_find? {α : Type*} {key : String} {v : α} {entries : List (String × α)}
    (h : find? key entries = some v) : (key, v) ∈ entries := by
  induction entries with
  | nil => exact nomatch h
  | cons e es ih =>
    obtain ⟨k, w⟩ := e
    rw [find?_cons] at h
    split_ifs at h with hkey
    · rw [hkey, Option.some.inj h]
      exact List.mem_cons_self
    · exact List.mem_cons_of_mem _ (ih h)

/-- Changing the values leaves the look-ups as they are, up to that change. -/
theorem find?_map {α β : Type*} (f : α → β) (key : String) (entries : List (String × α)) :
    find? key (entries.map fun e => (e.1, f e.2)) = (find? key entries).map f := by
  induction entries with
  | nil => rfl
  | cons e rest ih =>
    obtain ⟨k, v⟩ := e
    rw [List.map_cons, find?_cons, find?_cons, ih]
    split_ifs <;> rfl

theorem sorted_map {α β : Type*} (f : α → β) {entries : List (String × α)}
    (h : Sorted entries) : Sorted (entries.map fun e => (e.1, f e.2)) :=
  List.pairwise_map.mpr h

end Entries

namespace Json

/-! ### One merge -/

/-- What a merge leaves of a field: a null takes it away. -/
def mergedField (target : Option Json) : Option Json → Option Json
  | none => target
  | some .null => none
  | some patch => some (mergePatch (target.getD .null) patch)

theorem mergePatch_obj (fields patch : List (String × Json)) :
    mergePatch (.obj fields) (.obj patch) = .obj (mergeFields fields patch) := by
  simp only [mergePatch]

theorem mergePatch_null_obj (patch : List (String × Json)) :
    mergePatch .null (.obj patch) = .obj (mergeFields [] patch) := by
  simp only [mergePatch]

theorem mergePatch_of_not_obj {patch : Json} (h : ∀ fields, patch ≠ .obj fields) (target : Json) :
    mergePatch target patch = patch := by
  cases patch with
  | obj fields => exact absurd rfl (h fields)
  | _ => simp only [mergePatch]

theorem mergeFields_nil (fields : List (String × Json)) : mergeFields fields [] = fields := by
  simp only [mergeFields]

theorem mergeFields_null (fields : List (String × Json)) (k : String)
    (rest : List (String × Json)) :
    mergeFields fields ((k, .null) :: rest) = mergeFields (Entries.erase k fields) rest := by
  simp only [mergeFields]

theorem mergeFields_cons {p : Json} (hp : p ≠ .null) (fields : List (String × Json)) (k : String)
    (rest : List (String × Json)) :
    mergeFields fields ((k, p) :: rest) =
      mergeFields (Entries.insert k (mergePatch ((Entries.find? k fields).getD .null) p) fields)
        rest := by
  cases p with
  | null => exact absurd rfl hp
  | _ => simp only [mergeFields]

theorem mergedField_of_ne_null {p : Json} (hp : p ≠ .null) (target : Option Json) :
    mergedField target (some p) = some (mergePatch (target.getD .null) p) := by
  cases p with
  | null => exact absurd rfl hp
  | _ => rfl

theorem find?_mergeFields {patch : List (String × Json)} (hs : Entries.Sorted patch)
    (fields : List (String × Json)) (key : String) :
    Entries.find? key (mergeFields fields patch) =
      mergedField (Entries.find? key fields) (Entries.find? key patch) := by
  induction patch generalizing fields with
  | nil =>
    rw [mergeFields_nil]
    rfl
  | cons e rest ih =>
    obtain ⟨k, p⟩ := e
    have hrest := ih (Entries.sorted_of_cons hs)
    have hnone := Entries.find?_of_sorted_cons hs
    rw [Entries.find?_cons]
    by_cases hp : p = .null
    · rw [hp, mergeFields_null, hrest, Entries.find?_erase]
      split_ifs with hk
      · rw [hk, hnone]
        rfl
      · rfl
    · rw [mergeFields_cons hp, hrest, Entries.find?_insert]
      split_ifs with hk
      · rw [hk, hnone, mergedField_of_ne_null hp]
        rfl
      · rfl

theorem sorted_mergeFields {fields : List (String × Json)} (h : Entries.Sorted fields)
    (patch : List (String × Json)) : Entries.Sorted (mergeFields fields patch) := by
  induction patch generalizing fields with
  | nil =>
    rw [mergeFields_nil]
    exact h
  | cons e rest ih =>
    obtain ⟨k, p⟩ := e
    by_cases hp : p = .null
    · rw [hp, mergeFields_null]
      exact ih (Entries.sorted_erase k h)
    · rw [mergeFields_cons hp]
      exact ih (Entries.sorted_insert k _ h)

/-! ### Landing on the patch -/

theorem sorted_of_find? {fields : List (String × Json)} (hs : SortedFields fields) {key : String}
    {v : Json} (h : Entries.find? key fields = some v) : v.Sorted := by
  induction fields with
  | nil => simp at h
  | cons e rest ih =>
    obtain ⟨k, w⟩ := e
    unfold SortedFields at hs
    rw [Entries.find?_cons] at h
    split_ifs at h
    · obtain rfl := Option.some.inj h
      exact hs.1
    · exact ih hs.2 h

theorem Sorted.of_get? {v w : Json} (hs : v.Sorted) {key : String} (h : v.get? key = some w) :
    w.Sorted := by
  cases v with
  | obj fields =>
    unfold Sorted at hs
    exact sorted_of_find? hs.2 h
  | _ => simp [get?] at h

/-- What is no object merges like an object without fields. -/
theorem exists_mergePatch_obj (target : Json) :
    ∃ fields, (target.Sorted → Entries.Sorted fields) ∧
      (∀ key, target.get? key = Entries.find? key fields) ∧
      ∀ patch, mergePatch target (.obj patch) = .obj (mergeFields fields patch) := by
  cases target with
  | obj fields =>
    refine ⟨fields, ?_, fun _ => rfl, mergePatch_obj fields⟩
    intro hs
    unfold Sorted at hs
    exact hs.1
  | _ =>
    exact ⟨[], fun _ => List.Pairwise.nil, fun _ => rfl, fun patch => by simp only [mergePatch]⟩

/-- What a patch does to a key is told by what the target and the patch have under it. -/
theorem get?_mergePatch_obj (target : Json) {patch : List (String × Json)}
    (hs : Entries.Sorted patch) (key : String) :
    (mergePatch target (.obj patch)).get? key =
      mergedField (target.get? key) (Entries.find? key patch) := by
  obtain ⟨fields, -, hget, hmerge⟩ := exists_mergePatch_obj target
  rw [hmerge, hget key]
  exact find?_mergeFields hs fields key

/-- A field of the patch that is no null is there after the merge. -/
theorem get?_mergePatch (target : Json) {patch : List (String × Json)}
    (hs : Entries.Sorted patch) {key : String} {p : Json} (hp : p ≠ .null)
    (h : Entries.find? key patch = some p) :
    (mergePatch target (.obj patch)).get? key =
      some (mergePatch ((target.get? key).getD .null) p) := by
  rw [get?_mergePatch_obj target hs, h, mergedField_of_ne_null hp]

/-- A merge gives the patch itself exactly when the target has no field beside those of the patch
and the same holds of the fields they share. -/
theorem mergePatch_eq_patch_iff {target : Json} (ht : target.Sorted)
    {patch : List (String × Json)} (hp : Entries.Sorted patch)
    (hn : ∀ key, Entries.find? key patch ≠ some .null) :
    mergePatch target (.obj patch) = .obj patch ↔
      (∀ key, Entries.find? key patch = none → target.get? key = none) ∧
        ∀ key p, Entries.find? key patch = some p →
          mergePatch ((target.get? key).getD .null) p = p := by
  obtain ⟨fields, hsorted, hget, hmerge⟩ := exists_mergePatch_obj target
  have hs := hsorted ht
  have hfind := find?_mergeFields hp fields
  have hsome {key : String} {p : Json} (h : Entries.find? key patch = some p) :
      Entries.find? key (mergeFields fields patch) =
        some (mergePatch ((target.get? key).getD .null) p) := by
    rw [hfind key, h, mergedField_of_ne_null (fun he => hn key (he ▸ h)), hget key]
  rw [hmerge]
  constructor
  · intro heq
    have heq : mergeFields fields patch = patch := Json.obj.inj heq
    refine ⟨?_, ?_⟩
    · intro key h
      have h' := hfind key
      rw [heq, h] at h'
      rw [hget key]
      exact h'.symm
    · intro key p h
      have h' := hsome h
      rw [heq, h] at h'
      exact (Option.some.inj h').symm
  · rintro ⟨hnone, hshared⟩
    refine congrArg Json.obj (Entries.eq_of_find?_eq (sorted_mergeFields hs patch) hp
      fun key => ?_)
    cases h : Entries.find? key patch with
    | none =>
      rw [hfind key, h, ← hget key]
      exact hnone key h
    | some p => rw [hsome h, hshared key p h]

end Json

end MachineActuator
