/-! # Maps with string keys

Labels, annotations, secret data and JSON objects are all finite maps whose keys are listed in
increasing order.  `Entries` holds the operations on plain lists of pairs, which is what a JSON
object stores; `StringMap` adds the proof that the keys increase strictly, so two maps with the
same look-ups are equal (`StringMap.ext_get?`). -/

namespace MachineActuator

universe u v

/-! ### Lists of keyed entries -/

namespace Entries

variable {α : Type u} {β : Type v}

/-- The value of the first entry with this key. -/
def find? (key : String) : List (String × α) → Option α
  | [] => none
  | (k, v) :: rest => if key = k then some v else find? key rest

/-- Puts an entry in its place, over the entry that had the key before. -/
def insert (key : String) (value : α) : List (String × α) → List (String × α)
  | [] => [(key, value)]
  | (k, v) :: rest =>
    if key < k then (key, value) :: (k, v) :: rest
    else if key = k then (key, value) :: rest
    else (k, v) :: insert key value rest

/-- Drops the entries with this key. -/
def erase (key : String) : List (String × α) → List (String × α)
  | [] => []
  | (k, v) :: rest => if key = k then erase key rest else (k, v) :: erase key rest

/-- The keys increase strictly. -/
def Sorted (entries : List (String × α)) : Prop :=
  entries.Pairwise (fun a b => a.1 < b.1)

instance (entries : List (String × α)) : Decidable (Sorted entries) :=
  inferInstanceAs (Decidable (entries.Pairwise _))

@[simp] theorem find?_nil (key : String) : find? key ([] : List (String × α)) = none := rfl

theorem find?_cons (key k : String) (v : α) (rest : List (String × α)) :
    find? key ((k, v) :: rest) = if key = k then some v else find? key rest := rfl

theorem find?_insert (key other : String) (value : α) (entries : List (String × α)) :
    find? other (insert key value entries) =
      if other = key then some value else find? other entries := by
  induction entries with
  | nil => simp [insert, find?]
  | cons e rest ih =>
    obtain ⟨k, v⟩ := e
    simp only [insert]
    split
    · simp [find?]
    · split
      · next h => subst h; by_cases hk : other = key <;> simp [find?, hk]
      · next h =>
        by_cases hk : other = k
        · subst hk; simp [find?, Ne.symm h]
        · simp [find?, hk, ih]

theorem find?_erase (key other : String) (entries : List (String × α)) :
    find? other (erase key entries) = if other = key then none else find? other entries := by
  induction entries with
  | nil => simp [erase]
  | cons e rest ih =>
    obtain ⟨k, v⟩ := e
    simp only [erase]
    split
    · next h => subst h; by_cases hk : other = key <;> simp_all [find?]
    · next h =>
      by_cases hk : other = k
      · subst hk; simp [find?, Ne.symm h]
      · simp [find?, hk, ih]

theorem mem_insert {key : String} {value : α} {entries : List (String × α)} {e : String × α}
    (h : e ∈ insert key value entries) : e = (key, value) ∨ e ∈ entries := by
  induction entries with
  | nil => simp_all [insert]
  | cons x rest ih =>
    obtain ⟨k, v⟩ := x
    simp only [insert] at h
    split at h
    · simpa using h
    · split at h
      · rcases List.mem_cons.mp h with h | h <;> simp [h]
      · rcases List.mem_cons.mp h with h | h
        · simp [h]
        · rcases ih h with h | h <;> simp [h]

theorem mem_of_mem_erase {key : String} {entries : List (String × α)} {e : String × α}
    (h : e ∈ erase key entries) : e ∈ entries := by
  induction entries with
  | nil => simp [erase] at h
  | cons x rest ih =>
    obtain ⟨k, v⟩ := x
    simp only [erase] at h
    split at h
    · exact List.mem_cons_of_mem _ (ih h)
    · rcases List.mem_cons.mp h with h | h
      · simp [h]
      · exact List.mem_cons_of_mem _ (ih h)

theorem lt_of_not_lt_of_ne {a b : String} (h : ¬ a < b) (hne : a ≠ b) : b < a :=
  Std.lt_of_le_of_ne (Std.not_lt.mp h) (Ne.symm hne)

theorem sorted_insert (key : String) (value : α) {entries : List (String × α)}
    (h : Sorted entries) : Sorted (insert key value entries) := by
  induction entries with
  | nil => simp [insert, Sorted]
  | cons e rest ih =>
    obtain ⟨k, v⟩ := e
    have hrest : Sorted rest := (List.pairwise_cons.mp h).2
    have hk : ∀ e ∈ rest, k < e.1 := (List.pairwise_cons.mp h).1
    simp only [insert]
    split
    · next hlt =>
      refine List.pairwise_cons.mpr ⟨fun e he => ?_, h⟩
      rcases List.mem_cons.mp he with rfl | he
      · exact hlt
      · exact String.lt_trans hlt (hk e he)
    · next hlt =>
      split
      · next heq => subst heq; exact List.pairwise_cons.mpr ⟨hk, hrest⟩
      · next hne =>
        refine List.pairwise_cons.mpr ⟨fun e he => ?_, ih hrest⟩
        rcases mem_insert he with rfl | he
        · exact lt_of_not_lt_of_ne hlt hne
        · exact hk e he

theorem sorted_erase (key : String) {entries : List (String × α)} (h : Sorted entries) :
    Sorted (erase key entries) := by
  induction entries with
  | nil => exact List.Pairwise.nil
  | cons e rest ih =>
    obtain ⟨k, v⟩ := e
    simp only [erase]
    split
    · exact ih (List.pairwise_cons.mp h).2
    · exact List.pairwise_cons.mpr
        ⟨fun e he => (List.pairwise_cons.mp h).1 e (mem_of_mem_erase he),
          ih (List.pairwise_cons.mp h).2⟩

theorem find?_eq_none_of_lt {key : String} {entries : List (String × α)}
    (h : ∀ e ∈ entries, key < e.1) : find? key entries = none := by
  induction entries with
  | nil => rfl
  | cons e rest ih =>
    obtain ⟨k, v⟩ := e
    have hk : key ≠ k := fun he => String.lt_irrefl k (he ▸ h (k, v) (by simp))
    simp [find?, hk, ih (fun e he => h e (List.mem_cons_of_mem _ he))]

theorem eq_of_find?_eq {xs ys : List (String × α)} (hx : Sorted xs) (hy : Sorted ys)
    (h : ∀ key, find? key xs = find? key ys) : xs = ys := by
  induction xs generalizing ys with
  | nil =>
    cases ys with
    | nil => rfl
    | cons y ys => simpa [find?] using h y.1
  | cons x xs ih =>
    cases ys with
    | nil => simpa [find?] using h x.1
    | cons y ys =>
      obtain ⟨k, v⟩ := x
      obtain ⟨l, w⟩ := y
      have hx' := List.pairwise_cons.mp hx
      have hy' := List.pairwise_cons.mp hy
      have hkl : k = l := by
        refine Decidable.byContradiction fun hne => ?_
        by_cases hlt : k < l
        · have hnone : find? k ((l, w) :: ys) = none := find?_eq_none_of_lt fun e he => by
            rcases List.mem_cons.mp he with rfl | he
            · exact hlt
            · exact String.lt_trans hlt (hy'.1 e he)
          simpa [find?] using (h k).trans hnone
        · have hlt := lt_of_not_lt_of_ne hlt hne
          have hnone : find? l ((k, v) :: xs) = none := find?_eq_none_of_lt fun e he => by
            rcases List.mem_cons.mp he with rfl | he
            · exact hlt
            · exact String.lt_trans hlt (hx'.1 e he)
          simpa [find?] using (h l).symm.trans hnone
      subst hkl
      have hv : v = w := by simpa [find?] using h k
      subst hv
      congr 1
      refine ih hx'.2 hy'.2 fun key => ?_
      by_cases hk : key = k
      · subst hk
        rw [find?_eq_none_of_lt hx'.1, find?_eq_none_of_lt hy'.1]
      · simpa [find?, hk] using h key

end Entries

/-! ### Maps -/

/-- A finite map with string keys, listed in strictly increasing key order. -/
structure StringMap (α : Type u) where
  entries : List (String × α)
  sorted : Entries.Sorted entries
deriving DecidableEq

namespace StringMap

variable {α : Type u} {β : Type v}

def empty : StringMap α := ⟨[], List.Pairwise.nil⟩

instance : Inhabited (StringMap α) := ⟨empty⟩

def get? (m : StringMap α) (key : String) : Option α := Entries.find? key m.entries

def contains (m : StringMap α) (key : String) : Bool := (m.get? key).isSome

def insert (m : StringMap α) (key : String) (value : α) : StringMap α :=
  ⟨Entries.insert key value m.entries, Entries.sorted_insert key value m.sorted⟩

def isEmpty (m : StringMap α) : Bool := m.entries.isEmpty

/-- The map with these entries; of two with one key the later counts. -/
def ofList (entries : List (String × α)) : StringMap α :=
  entries.foldl (fun m e => m.insert e.1 e.2) empty

def singleton (key : String) (value : α) : StringMap α := empty.insert key value

/-- All entries of both maps; where both have a key, that of `other` counts. -/
def override (m other : StringMap α) : StringMap α :=
  other.entries.foldl (fun m e => m.insert e.1 e.2) m

@[simp] theorem get?_empty (key : String) : (empty : StringMap α).get? key = none := rfl

theorem get?_insert (m : StringMap α) (key other : String) (value : α) :
    (m.insert key value).get? other = if other = key then some value else m.get? other :=
  Entries.find?_insert key other value m.entries

theorem ext_get? {m n : StringMap α} (h : ∀ key, m.get? key = n.get? key) : m = n := by
  obtain ⟨xs, hx⟩ := m
  obtain ⟨ys, hy⟩ := n
  have := Entries.eq_of_find?_eq hx hy h
  subst this
  rfl

end StringMap

end MachineActuator
