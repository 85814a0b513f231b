import Mathlib
import MachineActuator.Json.Sent
import MachineActuator.Proofs.Json.Read

/-! # Values that come through

What is written of a value comes through when it goes over the wire unchanged and reads back as the
value (`Json.ComesThrough`).  An object comes through field by field: it is unchanged because every
field is (`sent_ofFields`), and it reads back by one lemma for each way a field may be declared
(`ComesThrough.required`, `ComesThrough.optional`, `ComesThrough.orElse`). -/

namespace MachineActuator.Json

variable {α : Type} {dec : Json → Option α} {enc : α → Json}

/-- What is written of the value goes over the wire unchanged and reads back. -/
structure ComesThrough (dec : Json → Option α) (enc : α → Json) (a : α) : Prop where
  sent : (enc a).sent = enc a
  read : dec (enc a) = some a
  ne_null : enc a ≠ .null

theorem ComesThrough.read_sent {a : α} (h : ComesThrough dec enc a) :
    dec (enc a).sent = some a := by
  rw [h.sent]
  exact h.read

/-! ### On the way -/

/-- The field goes over the wire unchanged, if it is there. -/
def Unchanged (field : Option Json) : Prop := ∀ v, field = some v → v.sent = v

theorem unchanged_none : Unchanged none := fun _ h => by simp at h

theorem unchanged_some {v : Json} (h : v.sent = v) : Unchanged (some v) := by
  intro w hw
  rw [← Option.some.inj hw]
  exact h

theorem unchanged_map {x : Option α} (h : ∀ a, x = some a → (enc a).sent = enc a) :
    Unchanged (x.map enc) := by
  cases x with
  | none => exact unchanged_none
  | some a => exact unchanged_some (h a rfl)

theorem unchanged_str (x : Option String) : Unchanged (x.map str) := unchanged_map fun _ _ => rfl

theorem unchanged_bool (x : Option Bool) : Unchanged (x.map bool) := unchanged_map fun _ _ => rfl

theorem sent_ofFields {fields : List (String × Option Json)}
    (h : ∀ e ∈ fields, Unchanged e.2) : (ofFields fields).sent = ofFields fields := by
  have hfields : sentFields (present fields) = present fields := by
    rw [sentFields_eq_map]
    refine (List.map_congr_left fun e he => ?_).trans (List.map_id _)
    obtain ⟨declared, hdeclared, hsome⟩ := List.mem_filterMap.mp he
    obtain ⟨v, hv, rfl⟩ := Option.map_eq_some_iff.mp hsome
    rw [h declared hdeclared v hv]
    rfl
  rw [ofFields_eq_present, sent, hfields]

theorem sent_ofList {items : List α} (h : ∀ a ∈ items, (enc a).sent = enc a) :
    (ofList enc items).sent = ofList enc items := by
  unfold ofList
  rw [sent, sentItems_eq_map, List.map_map]
  exact congrArg arr (List.map_congr_left fun a ha => h a ha)

theorem sent_ofMap (m : StringMap α) (h : ∀ a, (enc a).sent = enc a) :
    (ofMap enc m).sent = ofMap enc m := by
  unfold ofMap
  rw [sent, sentFields_eq_map, List.map_map]
  refine congrArg obj (List.map_congr_left fun e _ => ?_)
  simp only [Function.comp_apply, h]

theorem unchanged_strings (x : Option (StringMap String)) : Unchanged (x.map ofStrings) :=
  unchanged_map fun m _ => sent_ofMap m fun _ => rfl

theorem unchanged_nonempty {items : List α} (h : ∀ a ∈ items, (enc a).sent = enc a) :
    Unchanged (ofNonempty enc items) := by
  unfold ofNonempty
  split
  · exact unchanged_none
  · exact unchanged_some (sent_ofList h)

/-! ### Fields read back -/

namespace ComesThrough

variable {fields : List (String × Json)} {key : String}

theorem required {a : α} (h : ComesThrough dec enc a)
    (hfind : Entries.find? key fields = some (enc a)) :
    Json.required fields key dec = some a := by
  rw [required_of_find? hfind]
  exact h.read

theorem orElse {a absent : α} (h : ComesThrough dec enc a)
    (hfind : Entries.find? key fields = some (enc a)) :
    Json.orElse fields key dec absent = some a := by
  rw [orElse_of_some hfind]
  exact h.read

theorem optional {x : Option α} (h : ∀ a, x = some a → ComesThrough dec enc a)
    (hfind : Entries.find? key fields = x.map enc) :
    Json.optional fields key dec = some x :=
  optional_of_find?_self enc hfind (fun a ha => (h a ha).ne_null) fun a ha => (h a ha).read

/-- A record comes through when its fields go over the wire unchanged and are read back. -/
theorem of_fields {a : α} {fields : List (String × Option Json)} (henc : enc a = ofFields fields)
    (hfields : ∀ e ∈ fields, Unchanged e.2) (hread : dec (.obj (present fields)) = some a) :
    ComesThrough dec enc a where
  sent := by
    rw [henc]
    exact sent_ofFields hfields
  read := by
    rw [henc, ofFields_eq_present]
    exact hread
  ne_null := by
    rw [henc]
    simp [ofFields]

/-! ### Lists and maps -/

theorem str (s : String) : ComesThrough str? str s := ⟨rfl, rfl, by simp⟩

theorem list {items : List α} (h : ∀ a ∈ items, ComesThrough dec enc a) :
    ComesThrough (list? dec) (ofList enc) items :=
  ⟨sent_ofList fun a ha => (h a ha).sent, list?_ofList_self fun a ha => (h a ha).read,
    ofList_ne_null enc items⟩

theorem map (h : ∀ a, ComesThrough dec enc a) (m : StringMap α) :
    ComesThrough (map? dec) (ofMap enc) m :=
  ⟨sent_ofMap m fun a => (h a).sent, map?_ofMap fun _ a _ => (h a).read, by simp [ofMap]⟩

end ComesThrough

theorem nat?_of_lt {bits n : ℕ} (h : n < 2 ^ bits) : nat? bits (.num (.int n)) = some n := by
  have hbound : (0 : ℤ) ≤ n ∧ (n : ℤ) ≤ Nat.pow 2 bits - 1 := by
    have hlt : (n : ℤ) < (2 ^ bits : ℕ) := Int.ofNat_lt.mpr h
    have hpow : (Nat.pow 2 bits : ℕ) = 2 ^ bits := rfl
    rw [hpow]
    omega
  exact congrArg (Option.map Int.toNat) (if_pos hbound)

theorem lt_of_nat? {bits n : ℕ} {v : Json} (h : nat? bits v = some n) : n < 2 ^ bits := by
  obtain ⟨i, hi, rfl⟩ := Option.map_eq_some_iff.mp h
  unfold intBetween? at hi
  split at hi
  · split_ifs at hi with hbound
    obtain rfl := Option.some.inj hi
    have hpow : (Nat.pow 2 bits : ℕ) = 2 ^ bits := rfl
    rw [hpow] at hbound
    have hpos : 0 < 2 ^ bits := Nat.two_pow_pos bits
    omega
  · simp at hi

theorem orElse_nonempty {fields : List (String × Json)} {key : String} (items : List α)
    (h : ∀ a ∈ items, ComesThrough dec enc a)
    (hfind : Entries.find? key fields = ofNonempty enc items) :
    orElse fields key (list? dec) [] = some items :=
  orElse_ofNonempty_self items (fun a ha => (h a ha).read) hfind

end MachineActuator.Json
