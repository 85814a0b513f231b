import Mathlib
import MachineActuator.Json.Decode
import MachineActuator.Proofs.Json.Merge
import MachineActuator.Proofs.Time.Rfc3339

/-! # Reading what was written

An object is written as the list of its present fields and read by looking up one key after the
other, so a field reads back from its look-up alone: `optional_of_find?` for one that may be
missing, `textOrEmpty_of_find?` and `orElse_of_some` for one with a default.  Lists and maps read
back when their members do (`list?_ofList`, `map?_ofStrings`).  The other way round, what holds of
all that is read holds of a field that was read (`of_required`, `of_optional`, `of_orElse`). -/

namespace MachineActuator.Json

variable {α β : Type}

/-! ### Look-ups in written objects -/

/-- The fields that are present. -/
def present (fields : List (String × Option Json)) : List (String × Json) :=
  fields.filterMap fun (k, v) => v.map (k, ·)

theorem ofFields_eq_present (fields : List (String × Option Json)) :
    ofFields fields = .obj (present fields) := rfl

@[simp] theorem find?_present_nil (key : String) : Entries.find? key (present []) = none := rfl

@[simp] theorem find?_present_cons (key k : String) (v : Option Json)
    (rest : List (String × Option Json)) :
    Entries.find? key (present ((k, v) :: rest)) =
      if key = k then v.or (Entries.find? key (present rest))
      else Entries.find? key (present rest) := by
  cases v with
  | none => simp only [present, List.filterMap_cons, Option.map_none, Option.none_or, ite_self]
  | some v =>
    simp only [present, List.filterMap_cons, Option.map_some, Entries.find?_cons, Option.some_or]

theorem sorted_present (fields : List (String × Option Json))
    (h : (fields.map Prod.fst).Pairwise (· < ·)) : Entries.Sorted (present fields) := by
  refine List.Pairwise.filterMap _ (fun a b hab => ?_) (List.pairwise_map.mp h)
  rintro x hx y hy
  obtain ⟨k, v⟩ := a
  obtain ⟨l, w⟩ := b
  obtain ⟨u, -, rfl⟩ := Option.map_eq_some_iff.mp hx
  obtain ⟨u', -, rfl⟩ := Option.map_eq_some_iff.mp hy
  exact hab

/-! ### Fields -/

section fields
variable {fields other : List (String × Json)} {key : String} {dec : Json → Option α}

theorem optional_congr (h : Entries.find? key fields = Entries.find? key other) :
    optional fields key dec = optional other key dec := by
  unfold optional
  rw [h]

theorem orElse_congr {absent : α} (h : Entries.find? key fields = Entries.find? key other) :
    orElse fields key dec absent = orElse other key dec absent := by
  unfold orElse
  rw [h]

theorem optional_of_none (h : Entries.find? key fields = none) :
    optional fields key dec = some none := by
  unfold optional
  rw [h]

theorem optional_of_some {v : Json} {a : α} (h : Entries.find? key fields = some v)
    (hn : v ≠ .null) (hv : dec v = some a) : optional fields key dec = some (some a) := by
  unfold optional
  rw [h]
  cases v with
  | null => exact absurd rfl hn
  | _ => exact congrArg (Option.map some) hv

/-- A field that is written when it is present reads back as `g` of its value. -/
theorem optional_of_find? (enc : β → Json) {x : Option β} {g : β → α}
    (h : Entries.find? key fields = x.map enc) (hn : ∀ b, x = some b → enc b ≠ .null)
    (hd : ∀ b, x = some b → dec (enc b) = some (g b)) :
    optional fields key dec = some (x.map g) := by
  cases x with
  | none => exact optional_of_none h
  | some b => exact optional_of_some h (hn b rfl) (hd b rfl)

/-- A field that is written when it is present reads back. -/
theorem optional_of_find?_self (enc : α → Json) {x : Option α}
    (h : Entries.find? key fields = x.map enc) (hn : ∀ b, x = some b → enc b ≠ .null)
    (hd : ∀ b, x = some b → dec (enc b) = some b) : optional fields key dec = some x := by
  rw [optional_of_find? enc (g := id) h hn hd, Option.map_id_fun, id]

theorem optional_str {x : Option String} (h : Entries.find? key fields = x.map str) :
    optional fields key str? = some x :=
  optional_of_find?_self str h (fun _ _ => by simp) (fun _ _ => rfl)

theorem optional_bool {x : Option Bool} (h : Entries.find? key fields = x.map bool) :
    optional fields key bool? = some x :=
  optional_of_find?_self bool h (fun _ _ => by simp) (fun _ _ => rfl)

theorem optional_document {x : Option Json} (h : Entries.find? key fields = x)
    (hx : x ≠ some .null) : optional fields key some = some x := by
  cases x with
  | none => exact optional_of_none h
  | some v => exact optional_of_some h (fun hv => hx (hv ▸ rfl)) rfl

theorem ne_null_of_optional {x : Option Json} (h : optional fields key some = some x) :
    x ≠ some .null := by
  rintro rfl
  unfold optional at h
  split at h
  · simp at h
  · simp at h
  · next v hn hv => exact hn (Option.some.inj (Option.some.inj h))

theorem exists_of_optional {a : α} (h : optional fields key dec = some (some a)) :
    ∃ v, Entries.find? key fields = some v ∧ v ≠ .null ∧ dec v = some a := by
  unfold optional at h
  split at h
  · simp at h
  · simp at h
  · next v hn hv =>
    obtain ⟨b, hb, hab⟩ := Option.map_eq_some_iff.mp h
    obtain rfl := Option.some.inj hab
    exact ⟨v, hv, hn, hb⟩

theorem textOrEmpty_of_find? {s : String} (h : Entries.find? key fields = some (.str s)) :
    textOrEmpty fields key = some s := by
  unfold textOrEmpty
  rw [optional_of_some h (by simp) (show str? (.str s) = some s from rfl)]
  rfl

theorem orElse_of_none {absent : α} (h : Entries.find? key fields = none) :
    orElse fields key dec absent = some absent := by
  unfold orElse
  rw [h]

theorem orElse_of_some {v : Json} {absent : α} (h : Entries.find? key fields = some v) :
    orElse fields key dec absent = dec v := by
  unfold orElse
  rw [h]

theorem required_of_find? {v : Json} (h : Entries.find? key fields = some v) :
    required fields key dec = dec v := by
  unfold required
  rw [h]
  rfl

theorem of_required {p : α → Prop} (hp : ∀ v a, dec v = some a → p a) {a : α}
    (h : required fields key dec = some a) : p a := by
  obtain ⟨v, -, hv⟩ := Option.bind_eq_some_iff.mp h
  exact hp v a hv

theorem of_optional {p : α → Prop} (hp : ∀ v a, dec v = some a → p a) {x : Option α}
    (h : optional fields key dec = some x) : ∀ a, x = some a → p a := by
  rintro a rfl
  obtain ⟨v, -, -, hv⟩ := exists_of_optional h
  exact hp v a hv

theorem of_orElse {p : α → Prop} {absent : α} (hp : ∀ v a, dec v = some a → p a)
    (habsent : p absent) {a : α} (h : orElse fields key dec absent = some a) : p a := by
  unfold orElse at h
  split at h
  · rwa [← Option.some.inj h]
  · next v _ => exact hp v a h

theorem orElse_str {s : String} (hfind : Entries.find? key fields = some (.str s)) :
    orElse fields key str? "" = some s := by
  rw [orElse_of_some hfind]
  rfl

theorem orElse_ofText {s : String} (hfind : Entries.find? key fields = ofText s) :
    orElse fields key str? "" = some s := by
  unfold ofText at hfind
  split at hfind
  · next hempty => rw [orElse_of_none hfind, String.isEmpty_iff.mp hempty]
  · exact orElse_str hfind

end fields

/-! ### Lists and maps -/

theorem ofList_ne_null (enc : β → Json) (items : List β) : ofList enc items ≠ .null := by
  simp [ofList]

theorem list?_ofList {dec : Json → Option α} {enc : β → Json} {g : β → α} {items : List β}
    (h : ∀ b ∈ items, dec (enc b) = some (g b)) :
    list? dec (ofList enc items) = some (items.map g) := by
  show (items.map enc).mapM dec = some (items.map g)
  induction items with
  | nil => rfl
  | cons b items ih =>
    rw [List.map_cons, List.mapM_cons, h b List.mem_cons_self,
      ih fun b hb => h b (List.mem_cons_of_mem _ hb)]
    rfl

theorem list?_ofList_self {dec : Json → Option α} {enc : α → Json} {items : List α}
    (h : ∀ a ∈ items, dec (enc a) = some a) : list? dec (ofList enc items) = some items := by
  rw [list?_ofList (g := id) h, List.map_id]

/-- A list that is left out when it is empty reads back as its items do. -/
theorem orElse_ofNonempty {dec : Json → Option α} {enc : β → Json} {g : β → α}
    {fields : List (String × Json)} {key : String} (items : List β)
    (h : ∀ b ∈ items, dec (enc b) = some (g b))
    (hfind : Entries.find? key fields = ofNonempty enc items) :
    orElse fields key (list? dec) [] = some (items.map g) := by
  unfold ofNonempty at hfind
  split at hfind
  · next hempty =>
    rw [orElse_of_none hfind, List.isEmpty_iff.mp hempty]
    rfl
  · rw [orElse_of_some hfind]
    exact list?_ofList h

theorem orElse_ofNonempty_self {dec : Json → Option α} {enc : α → Json}
    {fields : List (String × Json)} {key : String} (items : List α)
    (h : ∀ a ∈ items, dec (enc a) = some a)
    (hfind : Entries.find? key fields = ofNonempty enc items) :
    orElse fields key (list? dec) [] = some items := by
  rw [orElse_ofNonempty (g := id) items h hfind, List.map_id]

theorem forall_of_list? {dec : Json → Option α} {p : α → Prop} (hp : ∀ v a, dec v = some a → p a)
    {v : Json} {as : List α} (h : list? dec v = some as) : ∀ a ∈ as, p a := by
  unfold list? at h
  split at h
  · next items =>
    induction items generalizing as with
    | nil =>
      obtain rfl : [] = as := Option.some.inj h
      simp
    | cons x items ih =>
      rw [List.mapM_cons] at h
      obtain ⟨a, ha, h⟩ := Option.bind_eq_some_iff.mp h
      obtain ⟨rest, hrest, h⟩ := Option.bind_eq_some_iff.mp h
      obtain rfl : a :: rest = as := Option.some.inj h
      intro b hb
      rcases List.mem_cons.mp hb with rfl | hb
      · exact hp x b ha
      · exact ih hrest b hb
  · simp at h

/-- Entries in key order are read into the map with the values that they have. -/
theorem exists_readEntries {dec : Json → Option α} {fields : List (String × Json)}
    (hs : Entries.Sorted fields) (hd : ∀ k v, Entries.find? k fields = some v → (dec v).isSome)
    (m : StringMap α) :
    ∃ n, readEntries dec m fields = some n ∧
      ∀ k, n.get? k = match Entries.find? k fields with
        | some v => dec v
        | none => m.get? k := by
  induction fields generalizing m with
  | nil => exact ⟨m, rfl, fun _ => rfl⟩
  | cons e rest ih =>
    obtain ⟨k, v⟩ := e
    have hnone := Entries.find?_eq_none_of_lt (List.pairwise_cons.mp hs).1
    obtain ⟨a, ha⟩ := Option.isSome_iff_exists.mp (hd k v (by rw [Entries.find?_cons, if_pos rfl]))
    have hrest : ∀ l w, Entries.find? l rest = some w → (dec w).isSome := by
      intro l w hw
      refine hd l w ?_
      rw [Entries.find?_cons, if_neg, hw]
      rintro rfl
      simp [hnone] at hw
    obtain ⟨n, hn, hget⟩ := ih (List.pairwise_cons.mp hs).2 hrest (m.insert k a)
    refine ⟨n, ?_, ?_⟩
    · unfold readEntries
      rw [ha]
      exact hn
    · intro l
      rw [hget l, Entries.find?_cons, StringMap.get?_insert]
      split_ifs with hl
      · rw [hl, hnone]
        exact ha.symm
      · rfl

theorem exists_map? (dec : Json → Option α) {fields : List (String × Json)}
    (hs : Entries.Sorted fields)
    (hd : ∀ k v, Entries.find? k fields = some v → (dec v).isSome) :
    ∃ n, map? dec (.obj fields) = some n ∧ ∀ k, n.get? k = Entries.find? k fields >>= dec := by
  obtain ⟨n, hn, hget⟩ := exists_readEntries hs hd .empty
  refine ⟨n, hn, ?_⟩
  intro k
  rw [hget k]
  cases Entries.find? k fields <;> rfl

/-- The fields of an object of strings. -/
def stringFields (m : StringMap String) : List (String × Json) :=
  m.entries.map fun e => (e.1, str e.2)

theorem find?_stringFields (m : StringMap String) (key : String) :
    Entries.find? key (stringFields m) = (m.get? key).map str :=
  Entries.find?_map str key m.entries

theorem sorted_stringFields (m : StringMap String) : Entries.Sorted (stringFields m) :=
  Entries.sorted_map str m.sorted

theorem map?_ofMap {dec : Json → Option α} {enc : α → Json} {m : StringMap α}
    (h : ∀ k a, m.get? k = some a → dec (enc a) = some a) : map? dec (ofMap enc m) = some m := by
  have hfind (key : String) : Entries.find? key (m.entries.map fun e => (e.1, enc e.2)) =
      (m.get? key).map enc := Entries.find?_map enc key m.entries
  obtain ⟨n, hn, hget⟩ := exists_map? dec (Entries.sorted_map enc m.sorted)
    (fun k v hv => by
      obtain ⟨a, ha, rfl⟩ := Option.map_eq_some_iff.mp ((hfind k).symm.trans hv)
      rw [h k a ha]
      rfl)
  refine hn.trans (congrArg some (StringMap.ext_get? fun k => ?_))
  rw [hget k, hfind k]
  cases hk : m.get? k with
  | none => rfl
  | some a => exact h k a hk

theorem map?_ofStrings (m : StringMap String) : map? str? (ofStrings m) = some m :=
  map?_ofMap fun _ _ _ => rfl

theorem optional_strings {fields : List (String × Json)} {key : String}
    {x : Option (StringMap String)}
    (h : Entries.find? key fields = x.map ofStrings) :
    optional fields key (map? str?) = some x :=
  optional_of_find?_self _ h (fun _ _ => by simp [ofStrings, ofMap]) fun m _ => map?_ofStrings m

/-! ### What is written alike -/

section written
variable {enc : α → Json} {g : α → α} (h : ∀ a, enc (g a) = enc a)
include h

theorem map_written (x : Option α) : (x.map g).map enc = x.map enc := by
  rw [Option.map_map]
  exact Option.map_congr fun a _ => h a

theorem ofList_written (items : List α) : ofList enc (items.map g) = ofList enc items := by
  unfold ofList
  rw [List.map_map]
  exact congrArg arr (List.map_congr_left fun a _ => h a)

theorem ofNonempty_written (items : List α) :
    ofNonempty enc (items.map g) = ofNonempty enc items := by
  unfold ofNonempty
  rw [List.isEmpty_map, ofList_written h]

end written

end MachineActuator.Json
