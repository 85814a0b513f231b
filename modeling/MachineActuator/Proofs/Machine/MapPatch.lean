import Mathlib
import MachineActuator.Machine.Patch
import MachineActuator.Proofs.Json.Read

/-! # Patches of maps

The patch from one map to another has a field for every key whose value differs, and no other
(`StringMap.find?_patchFields`): the new value, or a null where the key is gone.  Merged into any
stored map, it carries the difference over and leaves every other key (`exists_mergedStrings`). -/

namespace MachineActuator

/-! ### Entries -/

namespace Entries

variable {α β : Type}

theorem find?_filterMap (f : String → α → Option β) {entries : List (String × α)}
    (h : Sorted entries) (key : String) :
    find? key (entries.filterMap fun e => (f e.1 e.2).map (e.1, ·)) =
      (find? key entries).bind (f key) := by
  induction entries with
  | nil => rfl
  | cons e rest ih =>
    obtain ⟨k, v⟩ := e
    have hrest := ih (sorted_of_cons h)
    have hnone := find?_of_sorted_cons h
    cases hf : f k v with
    | none =>
      rw [List.filterMap_cons_none (by rw [hf]; rfl), hrest, find?_cons]
      split_ifs with hk
      · rw [hk, hnone, Option.bind_none, Option.bind_some, hf]
      · rfl
    | some w =>
      rw [List.filterMap_cons_some (by rw [hf]; rfl), find?_cons, find?_cons, hrest]
      split_ifs with hk
      · rw [hk, Option.bind_some, hf]
      · rfl

theorem sorted_filterMap (f : String → α → Option β) {entries : List (String × α)}
    (h : Sorted entries) :
    Sorted (entries.filterMap fun e => (f e.1 e.2).map (e.1, ·)) := by
  refine List.Pairwise.filterMap _ (fun a b hab => ?_) h
  rintro x hx y hy
  obtain ⟨v, -, rfl⟩ := Option.map_eq_some_iff.mp hx
  obtain ⟨w, -, rfl⟩ := Option.map_eq_some_iff.mp hy
  exact hab

theorem find?_foldl_insert {added : List (String × α)} (h : Sorted added)
    (entries : List (String × α)) (key : String) :
    find? key (added.foldl (fun fields (k, v) => insert k v fields) entries) =
      (find? key added).or (find? key entries) := by
  induction added generalizing entries with
  | nil => rfl
  | cons e rest ih =>
    obtain ⟨k, v⟩ := e
    rw [List.foldl_cons, ih (sorted_of_cons h), find?_insert, find?_cons]
    split_ifs with hk
    · rw [hk, find?_of_sorted_cons h]
      rfl
    · rfl

theorem sorted_foldl_insert (added : List (String × α)) {entries : List (String × α)}
    (h : Sorted entries) :
    Sorted (added.foldl (fun fields (k, v) => insert k v fields) entries) := by
  induction added generalizing entries with
  | nil => exact h
  | cons e rest ih => exact ih (sorted_insert e.1 e.2 h)

end Entries

/-! ### The patch -/

namespace StringMap

/-- The value under a key of a map that may be absent. -/
def entry (m : Option (StringMap String)) (key : String) : Option String :=
  (m.getD .empty).get? key

theorem getD_eq_of_entry {m n : Option (StringMap String)} (h : ∀ k, entry m k = entry n k) :
    m.getD .empty = n.getD .empty := ext_get? h

variable (before after : StringMap String)

theorem changedEntries_eq :
    changedEntries before after = after.entries.filterMap fun e =>
      (if before.get? e.1 = some e.2 then none else some (Json.str e.2)).map (e.1, ·) := by
  unfold changedEntries
  congr 1
  funext e
  dsimp only
  split_ifs <;> rfl

theorem removedEntries_eq :
    removedEntries before after = before.entries.filterMap fun e =>
      (if after.contains e.1 then none else some Json.null).map (e.1, ·) := by
  unfold removedEntries
  congr 1
  funext e
  dsimp only
  split_ifs <;> rfl

theorem sorted_patchFields : Entries.Sorted (patchFields before after) := by
  unfold patchFields
  rw [changedEntries_eq]
  exact Entries.sorted_foldl_insert _ (Entries.sorted_filterMap
    (fun k v => if before.get? k = some v then none else some (Json.str v)) after.sorted)

/-- The patch names exactly the keys whose values differ. -/
theorem find?_patchFields (key : String) :
    Entries.find? key (patchFields before after) =
      if before.get? key = after.get? key then none
      else some (((after.get? key).map Json.str).getD .null) := by
  have hremoved := Entries.find?_filterMap
    (fun k _ => if after.contains k then none else some Json.null) before.sorted key
  have hchanged := Entries.find?_filterMap
    (fun k v => if before.get? k = some v then none else some (Json.str v)) after.sorted key
  rw [← removedEntries_eq] at hremoved
  rw [← changedEntries_eq] at hchanged
  have hsorted : Entries.Sorted (removedEntries before after) := by
    rw [removedEntries_eq]
    exact Entries.sorted_filterMap
      (fun k _ => if after.contains k then none else some Json.null) before.sorted
  unfold patchFields
  rw [Entries.find?_foldl_insert hsorted, hremoved, hchanged]
  change ((before.get? key).bind _).or ((after.get? key).bind _) = _
  unfold contains
  cases hb : before.get? key with
  | none =>
    cases ha : after.get? key with
    | none => rfl
    | some v => simp
  | some w =>
    cases ha : after.get? key with
    | none => simp
    | some v => by_cases hwv : w = v <;> simp [hwv]

end StringMap

/-! ### The patch of a map that may be absent -/

namespace StringMap

variable {before after stored : Option (StringMap String)}

theorem patch?_eq_none_iff :
    patch? before after = none ↔ before.getD .empty = after.getD .empty := by
  have hfind := find?_patchFields (before.getD .empty) (after.getD .empty)
  unfold patch?
  constructor
  · intro h
    split at h
    · next hnil =>
      apply ext_get?
      intro k
      by_contra hne
      have hk := hfind k
      rw [hnil, if_neg hne] at hk
      simp at hk
    · simp at h
  · intro h
    split
    · rfl
    · next hne =>
      refine absurd (Entries.eq_of_find?_eq (sorted_patchFields _ _) List.Pairwise.nil
        fun k => ?_) hne
      rw [hfind k, if_pos (by rw [h])]
      rfl

theorem eq_of_patch?_eq_some {patch : Json} (h : patch? before after = some patch) :
    patch = .obj (patchFields (before.getD .empty) (after.getD .empty)) := by
  unfold patch? at h
  split at h
  · simp at h
  · exact (Option.some.inj h).symm

end StringMap

open StringMap (entry)

/-- Merging a patch of maps into a stored map carries over what differs. -/
theorem exists_mergedStrings (before after stored : Option (StringMap String))
    {fields : List (String × Json)} {key : String}
    (h : Entries.find? key fields =
      Json.mergedField (stored.map .ofStrings) (StringMap.patch? before after)) :
    ∃ r, Json.optional fields key (Json.map? Json.str?) = some r ∧
      ∀ k, entry r k =
        if entry before k = entry after k then entry stored k else entry after k := by
  cases hpatch : StringMap.patch? before after with
  | none =>
    rw [hpatch] at h
    refine ⟨stored, Json.optional_strings h, ?_⟩
    intro k
    rw [if_pos]
    unfold entry
    rw [StringMap.patch?_eq_none_iff.mp hpatch]
  | some patch =>
    obtain rfl := StringMap.eq_of_patch?_eq_some hpatch
    have hmerge : Entries.find? key fields = some (.obj (Json.mergeFields
        (Json.stringFields (stored.getD .empty))
        (StringMap.patchFields (before.getD .empty) (after.getD .empty)))) := by
      rw [h, hpatch, Json.mergedField_of_ne_null (by simp)]
      -- where there is no map the patch merges into one without entries
      cases stored with
      | none => exact congrArg some (Json.mergePatch_null_obj _)
      | some m => exact congrArg some (Json.mergePatch_obj _ _)
    have hfind := Json.find?_mergeFields
      (StringMap.sorted_patchFields (before.getD .empty) (after.getD .empty))
      (Json.stringFields (stored.getD .empty))
    have hvalue (k : String) : Entries.find? k (Json.mergeFields
        (Json.stringFields (stored.getD .empty))
        (StringMap.patchFields (before.getD .empty) (after.getD .empty))) =
        (if entry before k = entry after k then entry stored k else entry after k).map .str := by
      rw [hfind k, Json.find?_stringFields, StringMap.find?_patchFields]
      change Json.mergedField _ (if entry before k = entry after k then none else
        some (((entry after k).map Json.str).getD .null)) = _
      split_ifs
      · rfl
      · cases entry after k with
        | none => rfl
        | some v => exact congrArg some (Json.mergePatch_of_not_obj (by simp) _)
    obtain ⟨n, hn, hget⟩ := Json.exists_map? Json.str?
      (Json.sorted_mergeFields (Json.sorted_stringFields (stored.getD .empty)) _)
      (fun k v hv => by
        obtain ⟨s, -, rfl⟩ := Option.map_eq_some_iff.mp ((hvalue k).symm.trans hv)
        rfl)
    refine ⟨some n, Json.optional_of_some hmerge (by simp) hn, ?_⟩
    intro k
    change n.get? k = _
    rw [hget k, hvalue k]
    cases if entry before k = entry after k then entry stored k else entry after k <;> rfl

end MachineActuator
