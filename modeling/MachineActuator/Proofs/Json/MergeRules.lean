import Mathlib
import MachineActuator.Proofs.Json.Merge

/-! # What merge patches do

`Rfc7386.mergePatch` is the algorithm of RFC 7386 as it is written down there, with a loop over the
pairs of the patch and targets that may be undefined; `Json.mergePatch` computes the same
(`Rfc7386.mergePatch_eq`).  A patch does once what it does twice (`Json.mergePatch_mergePatch`).
What it does can be told along paths of keys: what the patch does not mention stays
(`Json.follow?_mergePatch_of_unmentioned`), and where the patch has a null there is nothing
afterwards (`Json.follow?_mergePatch_of_null`). -/

namespace MachineActuator

/-! ### The algorithm of the RFC -/

namespace Rfc7386

/-- The pairs of a target; one that is no object is taken as an empty object. -/
def pairsOf : Option Json → List (String × Json)
  | none => []
  | some (.obj pairs) => pairs
  | some _ => []

/-- One turn of the loop: a null removes the name, and any other value is merged into what the
target has under the name. -/
def turn (merge : Option Json → Json) (pairs : List (String × Json)) (name : String)
    (value : Json) : List (String × Json) :=
  if value = .null then Entries.erase name pairs
  else Entries.insert name (merge (Entries.find? name pairs)) pairs

/-- `MergePatch(Target, Patch)`: a patch that is an object is merged pair by pair, and any other
patch is the result.  `none` stands for a target that is undefined. -/
def mergePatch (target : Option Json) : Json → Json
  | .obj patch =>
    .obj (patch.attach.foldl
      (fun pairs pair => turn (fun t => mergePatch t pair.1.2) pairs pair.1.1 pair.1.2)
      (pairsOf target))
  | patch => patch
termination_by patch => sizeOf patch
decreasing_by
  have hpair : sizeOf pair.1 < sizeOf patch := List.sizeOf_lt_of_mem pair.2
  have hvalue : sizeOf pair.1.2 < sizeOf pair.1 := by
    obtain ⟨⟨name, value⟩, _⟩ := pair
    simp
  simp only [Json.obj.sizeOf_spec]
  omega

theorem mergePatch_obj (target : Option Json) (patch : List (String × Json)) :
    mergePatch target (.obj patch) =
      .obj (patch.foldl (fun pairs pair => turn (fun t => mergePatch t pair.2) pairs pair.1 pair.2)
        (pairsOf target)) := by
  rw [mergePatch]
  congr 1
  exact List.foldl_attach
    (f := fun pairs (pair : String × Json) =>
      turn (fun t => mergePatch t pair.2) pairs pair.1 pair.2)

/-- The loop over pairs whose values are merged alike merges the fields. -/
theorem foldl_turn (patch pairs : List (String × Json))
    (h : ∀ pair ∈ patch, ∀ target, mergePatch target pair.2 =
      Json.mergePatch (target.getD .null) pair.2) :
    patch.foldl (fun pairs pair => turn (fun t => mergePatch t pair.2) pairs pair.1 pair.2) pairs =
      Json.mergeFields pairs patch := by
  induction patch generalizing pairs with
  | nil => rw [List.foldl_nil, Json.mergeFields_nil]
  | cons pair rest ih =>
    obtain ⟨name, value⟩ := pair
    obtain ⟨hvalue, hrest⟩ := List.forall_mem_cons.mp h
    rw [List.foldl_cons, ih _ hrest]
    unfold turn
    dsimp only
    split_ifs with hnull
    · rw [hnull, Json.mergeFields_null]
    · rw [hvalue, Json.mergeFields_cons hnull]

/-- A target that is undefined is merged into as a null is. -/
theorem mergePatch_eq (target : Option Json) (patch : Json) :
    mergePatch target patch = Json.mergePatch (target.getD .null) patch := by
  induction patch generalizing target with
  | obj patch ih =>
    rw [mergePatch_obj, foldl_turn patch _ ih]
    cases target with
    | none =>
      rw [Option.getD_none, Json.mergePatch_null_obj]
      rfl
    | some target =>
      rw [Option.getD_some]
      cases target with
      | obj pairs =>
        rw [Json.mergePatch_obj]
        rfl
      | _ => simp only [pairsOf, Json.mergePatch]
  | _ => simp only [mergePatch, Json.mergePatch]

end Rfc7386

namespace Json

/-! ### Twice the same patch -/

theorem Sorted.getD_null {target : Option Json} (h : ∀ v, target = some v → v.Sorted) :
    (target.getD .null).Sorted := by
  cases target with
  | none => trivial
  | some v => exact h v rfl

/-- A patch does once what it does twice. -/
theorem mergePatch_mergePatch {target patch : Json} (ht : target.Sorted) (hp : patch.Sorted) :
    mergePatch (mergePatch target patch) patch = mergePatch target patch := by
  induction patch generalizing target with
  | obj patch ih =>
    obtain ⟨fields, hfields, hget, hmerge⟩ := exists_mergePatch_obj target
    obtain ⟨hpatch, hvalues⟩ := hp
    have hsorted := sorted_mergeFields (hfields ht) patch
    have hagain (key : String) : Entries.find? key (mergeFields (mergeFields fields patch) patch) =
        Entries.find? key (mergeFields fields patch) := by
      rw [find?_mergeFields hpatch, find?_mergeFields hpatch]
      cases hkey : Entries.find? key patch with
      | none => rfl
      | some p =>
        by_cases hnull : p = .null
        · rw [hnull]
          rfl
        · rw [mergedField_of_ne_null hnull, mergedField_of_ne_null hnull, Option.getD_some]
          have hbefore : ((Entries.find? key fields).getD .null).Sorted :=
            Sorted.getD_null fun v hv => Sorted.of_get? ht ((hget key).trans hv)
          have hmem : (key, p) ∈ patch := Entries.mem_of_find? hkey
          rw [ih (key, p) hmem hbefore (sorted_of_find? hvalues hkey)]
    rw [hmerge, mergePatch_obj, Entries.eq_of_find?_eq (sorted_mergeFields hsorted patch) hsorted
      hagain]
  | _ => simp only [mergePatch]

/-! ### Along a path -/

/-- The value at the end of a path of keys, which leads through objects only. -/
def follow? (v : Json) : List String → Option Json
  | [] => some v
  | key :: rest => (v.get? key).bind fun w => w.follow? rest

theorem follow?_cons (v : Json) (key : String) (rest : List String) :
    v.follow? (key :: rest) = (v.get? key).bind fun w => w.follow? rest := rfl

theorem eq_nil_of_follow?_null {path : List String} {v : Json}
    (h : Json.null.follow? path = some v) : path = [] ∧ v = .null := by
  cases path with
  | nil => exact ⟨rfl, (Option.some.inj h).symm⟩
  | cons key rest => exact nomatch h

theorem exists_obj_of_get? {v w : Json} {key : String} (h : v.get? key = some w) :
    ∃ fields, v = .obj fields ∧ Entries.find? key fields = some w := by
  cases v with
  | obj fields => exact ⟨fields, rfl, h⟩
  | _ => exact nomatch h

variable {target patch : Json}

/-- Where the patch has an object without a key, that key stays as it was, and so does all that is
behind it. -/
theorem follow?_mergePatch_of_unmentioned (hp : patch.Sorted) {way : List String}
    {pairs : List (String × Json)} {key : String} (hway : patch.follow? way = some (.obj pairs))
    (hkey : Entries.find? key pairs = none) (rest : List String) :
    (mergePatch target patch).follow? (way ++ key :: rest) =
      target.follow? (way ++ key :: rest) := by
  induction way generalizing target patch with
  | nil =>
    obtain rfl := Option.some.inj hway
    have hstays : (mergePatch target (.obj pairs)).get? key = target.get? key := by
      rw [get?_mergePatch_obj target hp.1, hkey]
      rfl
    rw [List.nil_append, follow?_cons, follow?_cons, hstays]
  | cons first way ih =>
    obtain ⟨p, hfirst, hbehind⟩ := Option.bind_eq_some_iff.mp hway
    obtain ⟨fields, rfl, hfind⟩ := exists_obj_of_get? hfirst
    have hnull : p ≠ .null := by
      rintro rfl
      obtain ⟨-, hobj⟩ := eq_nil_of_follow?_null hbehind
      exact nomatch hobj
    have hmerged := get?_mergePatch target hp.1 hnull hfind
    have hrest : (mergePatch ((target.get? first).getD .null) p).follow? (way ++ key :: rest) =
        ((target.get? first).getD .null).follow? (way ++ key :: rest) :=
      ih (sorted_of_find? hp.2 hfind) hbehind
    rw [List.cons_append, follow?_cons, follow?_cons, hmerged, Option.bind_some, hrest]
    cases target.get? first with
    | some before => rfl
    | none =>
      -- without the first key there is nothing to stay, as there is nothing behind a null
      rw [Option.getD_none, Option.bind_none]
      cases way with
      | nil => rfl
      | cons second way => rfl

/-- Where a patch that is an object has a null, there is nothing afterwards. -/
theorem follow?_mergePatch_of_null {pairs : List (String × Json)} (hp : (obj pairs).Sorted)
    {path : List String} (hnull : (obj pairs).follow? path = some .null) :
    (mergePatch target (.obj pairs)).follow? path = none := by
  induction path generalizing target pairs with
  | nil => exact nomatch hnull
  | cons key rest ih =>
    obtain ⟨p, hkey, hrest⟩ := Option.bind_eq_some_iff.mp hnull
    have hmerged := get?_mergePatch_obj target hp.1 key
    rw [show Entries.find? key pairs = some p from hkey] at hmerged
    rw [follow?_cons, hmerged]
    cases p with
    | null => rfl
    | obj fields =>
      rw [mergedField_of_ne_null (p := .obj fields) nofun, Option.bind_some]
      exact ih (sorted_of_find? hp.2 hkey) hrest
    | _ =>
      -- no path leads from here to a null
      cases rest with
      | nil => exact nomatch hrest
      | cons second rest => exact nomatch hrest

/-- Merge patches follow the algorithm of RFC 7386.  One that is applied again changes nothing more.
What it does not mention keeps its value, or stays absent; and where it has a null, in it or in
objects inside it, there is nothing afterwards, whatever the target was. -/
theorem mergePatch_follows_rfc (ht : target.Sorted) (hp : patch.Sorted) :
    mergePatch target patch = Rfc7386.mergePatch (some target) patch ∧
    mergePatch (mergePatch target patch) patch = mergePatch target patch ∧
    (∀ way pairs key rest, patch.follow? way = some (.obj pairs) →
      Entries.find? key pairs = none →
      (mergePatch target patch).follow? (way ++ key :: rest) =
        target.follow? (way ++ key :: rest)) ∧
    (∀ pairs, patch = .obj pairs → ∀ path, patch.follow? path = some .null →
      (mergePatch target patch).follow? path = none) := by
  refine ⟨?_, mergePatch_mergePatch ht hp, ?_, ?_⟩
  · rw [Rfc7386.mergePatch_eq, Option.getD_some]
  · intro way pairs key rest hway hkey
    exact follow?_mergePatch_of_unmentioned hp hway hkey rest
  · rintro pairs rfl path hnull
    exact follow?_mergePatch_of_null hp hnull

/-- A patch that changes one field of an object and removes another, adds a list, and asks for the
removal of what was never there. -/
theorem mergePatch_follows_rfc_nested :
    let target : Json :=
      .obj [("a", .obj [("b", .num (.int 1)), ("c", .num (.int 2))]), ("d", .num (.int 3))]
    let patch : Json :=
      .obj
        [("a", .obj [("b", .num (.int 5)), ("c", .null)]), ("e", .arr [.num (.int 1)]),
         ("f", .obj [("g", .null)])]
    let result : Json :=
      .obj
        [("a", .obj [("b", .num (.int 5))]), ("d", .num (.int 3)), ("e", .arr [.num (.int 1)]),
         ("f", .obj [])]
    target.Sorted ∧ patch.Sorted ∧ mergePatch target patch = result ∧
      Rfc7386.mergePatch (some target) patch = result ∧ mergePatch result patch = result ∧
      result.follow? ["d"] = target.follow? ["d"] ∧ result.follow? ["a", "c"] = none ∧
      result.follow? ["f", "g"] = none := by
  intro target patch result
  have ht : target.Sorted := by
    simp only [target, Json.Sorted, Json.SortedFields]
    decide
  have hp : patch.Sorted := by
    simp only [patch, Json.Sorted, Json.SortedFields, Json.SortedItems]
    decide
  have hresult : mergePatch target patch = result := by decide
  obtain ⟨hrfc, hagain, hstays, hgone⟩ := mergePatch_follows_rfc ht hp
  rw [hresult] at hrfc hagain
  refine ⟨ht, hp, hresult, hrfc.symm, hagain, ?_, ?_, ?_⟩
  · rw [← hresult]
    exact hstays [] _ "d" [] rfl (by decide)
  · rw [← hresult]
    exact hgone _ rfl ["a", "c"] rfl
  · rw [← hresult]
    exact hgone _ rfl ["f", "g"] rfl

end Json

end MachineActuator
