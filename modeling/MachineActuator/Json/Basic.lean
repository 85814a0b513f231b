import MachineActuator.Json.Number
import MachineActuator.StringMap

/-! # JSON values

Objects hold their fields as a list of entries; those that are read or built here are in strictly
increasing key order at every level (`Json.Sorted`), so that a value has one form. -/

namespace MachineActuator

inductive Json where
  | null
  | bool (value : Bool)
  | num (value : Json.Number)
  | str (value : String)
  | arr (items : List Json)
  | obj (fields : List (String × Json))

namespace Json

instance : Inhabited Json := ⟨null⟩

/-- Induction over values, with the members of lists and objects as premises. -/
@[elab_as_elim, induction_eliminator]
theorem induct {motive : Json → Prop} (null : motive null) (bool : ∀ b, motive (bool b))
    (num : ∀ n, motive (num n)) (str : ∀ s, motive (str s))
    (arr : ∀ items, (∀ x ∈ items, motive x) → motive (arr items))
    (obj : ∀ fields, (∀ e ∈ fields, motive e.2) → motive (obj fields)) (v : Json) : motive v :=
  @Json.rec motive (fun items => ∀ x ∈ items, motive x)
    (fun fields => ∀ e ∈ fields, motive e.2) (fun e => motive e.2)
    null bool num str arr obj
    (fun _ h => absurd h List.not_mem_nil)
    (fun _ _ hx hr _ h => (List.mem_cons.mp h).elim (fun e => e ▸ hx) (hr _))
    (fun _ h => absurd h List.not_mem_nil)
    (fun _ _ he hr _ h => (List.mem_cons.mp h).elim (fun e => e ▸ he) (hr _))
    (fun _ _ h => h) v

/-! ### Equality -/

mutual

/-- Decides equality of values. -/
def decEq : (a b : Json) → Decidable (a = b)
  | .null, .null => isTrue rfl
  | .bool a, .bool b => decidable_of_iff (a = b) (by simp)
  | .num a, .num b => decidable_of_iff (a = b) (by simp)
  | .str a, .str b => decidable_of_iff (a = b) (by simp)
  | .arr a, .arr b =>
    match decEqItems a b with
    | isTrue h => isTrue (by rw [h])
    | isFalse h => isFalse (by simpa using h)
  | .obj a, .obj b =>
    match decEqFields a b with
    | isTrue h => isTrue (by rw [h])
    | isFalse h => isFalse (by simpa using h)
  | .null, .bool _ | .null, .num _ | .null, .str _ | .null, .arr _ | .null, .obj _
  | .bool _, .null | .bool _, .num _ | .bool _, .str _ | .bool _, .arr _ | .bool _, .obj _
  | .num _, .null | .num _, .bool _ | .num _, .str _ | .num _, .arr _ | .num _, .obj _
  | .str _, .null | .str _, .bool _ | .str _, .num _ | .str _, .arr _ | .str _, .obj _
  | .arr _, .null | .arr _, .bool _ | .arr _, .num _ | .arr _, .str _ | .arr _, .obj _
  | .obj _, .null | .obj _, .bool _ | .obj _, .num _ | .obj _, .str _ | .obj _, .arr _ =>
    isFalse (by simp)
termination_by structural a => a

/-- Decides equality of lists of values. -/
def decEqItems : (a b : List Json) → Decidable (a = b)
  | [], [] => isTrue rfl
  | [], _ :: _ | _ :: _, [] => isFalse (by simp)
  | x :: xs, y :: ys =>
    match decEq x y, decEqItems xs ys with
    | isTrue h, isTrue h' => isTrue (by rw [h, h'])
    | isFalse h, _ => isFalse (by simp [h])
    | _, isFalse h => isFalse (by simp [h])
termination_by structural a => a

/-- Decides equality of fields. -/
def decEqFields : (a b : List (String × Json)) → Decidable (a = b)
  | [], [] => isTrue rfl
  | [], _ :: _ | _ :: _, [] => isFalse (by simp)
  | (k, x) :: xs, (l, y) :: ys =>
    match (inferInstance : Decidable (k = l)), decEq x y, decEqFields xs ys with
    | isTrue h, isTrue h', isTrue h'' => isTrue (by rw [h, h', h''])
    | isFalse h, _, _ => isFalse (by simp [h])
    | _, isFalse h, _ => isFalse (by simp [h])
    | _, _, isFalse h => isFalse (by simp [h])
termination_by structural a => a

end

instance : DecidableEq Json := decEq

mutual

/-- Equality up to the sign of float zeros, as the program compares values. -/
def same : Json → Json → Bool
  | .null, .null => true
  | .bool a, .bool b => a == b
  | .num a, .num b => a.same b
  | .str a, .str b => a == b
  | .arr a, .arr b => sameItems a b
  | .obj a, .obj b => sameFields a b
  | _, _ => false
termination_by structural a => a

/-- `same` item by item. -/
def sameItems : List Json → List Json → Bool
  | [], [] => true
  | x :: xs, y :: ys => same x y && sameItems xs ys
  | _, _ => false
termination_by structural a => a

/-- `same` field by field. -/
def sameFields : List (String × Json) → List (String × Json) → Bool
  | [], [] => true
  | (k, x) :: xs, (l, y) :: ys => k == l && same x y && sameFields xs ys
  | _, _ => false
termination_by structural a => a

end

theorem same_refl (v : Json) : v.same v = true := by
  induction v with
  | null => rfl
  | bool b => simp [same]
  | num n => simp [same, n.same_refl]
  | str s => simp [same]
  | arr items ih =>
    simp only [same]
    induction items with
    | nil => rfl
    | cons x xs ihxs =>
      obtain ⟨hx, hxs⟩ := List.forall_mem_cons.mp ih
      simp [sameItems, hx, ihxs hxs]
  | obj fields ih =>
    simp only [same]
    induction fields with
    | nil => rfl
    | cons e rest ihrest =>
      obtain ⟨he, hrest⟩ := List.forall_mem_cons.mp ih
      simp [sameFields, he, ihrest hrest]

/-- Whether two values that may be absent are the same. -/
def sameOption {α : Type} (same : α → α → Bool) : Option α → Option α → Bool
  | none, none => true
  | some a, some b => same a b
  | _, _ => false

theorem sameOption_refl {α : Type} {same : α → α → Bool} (h : ∀ a, same a a = true)
    (x : Option α) : sameOption same x x = true := by
  cases x with
  | none => rfl
  | some a => exact h a

/-! ### Access and construction -/

/-- The field of an object. -/
def get? (v : Json) (key : String) : Option Json :=
  match v with
  | obj fields => Entries.find? key fields
  | _ => none

def str? : Json → Option String
  | str s => some s
  | _ => none

/-- An object with one field. -/
def field (key : String) (value : Json) : Json := obj [(key, value)]

/-- An object of the fields that are present, listed in key order. -/
def ofFields (fields : List (String × Option Json)) : Json :=
  obj (fields.filterMap fun (k, v) => v.map (k, ·))

def ofList {α : Type} (enc : α → Json) (items : List α) : Json := arr (items.map enc)

/-- A list of values that is left out when it is empty. -/
def ofNonempty {α : Type} (enc : α → Json) (items : List α) : Option Json :=
  if items.isEmpty then none else some (ofList enc items)

/-- An object with the entries of a map. -/
def ofMap {α : Type} (enc : α → Json) (m : StringMap α) : Json :=
  obj (m.entries.map fun (k, v) => (k, enc v))

def ofStrings (m : StringMap String) : Json := ofMap str m

/-- A text that is left out when it is empty. -/
def ofText (text : String) : Option Json := if text.isEmpty then none else some (str text)

/-! ### Key order -/

mutual

/-- The fields of every object in the value are in strictly increasing key order. -/
def Sorted : Json → Prop
  | .arr items => SortedItems items
  | .obj fields => Entries.Sorted fields ∧ SortedFields fields
  | _ => True
termination_by structural v => v

/-- `Sorted` for all items. -/
def SortedItems : List Json → Prop
  | [] => True
  | x :: xs => Sorted x ∧ SortedItems xs
termination_by structural v => v

/-- `Sorted` for all field values. -/
def SortedFields : List (String × Json) → Prop
  | [] => True
  | (_, x) :: xs => Sorted x ∧ SortedFields xs
termination_by structural v => v

end

end Json

end MachineActuator
