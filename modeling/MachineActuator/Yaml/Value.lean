import MachineActuator.Binary64

/-! # Values

What the nodes of a document stand for.  The keys of a mapping may be any values, so that equality
of values decides whether a key is there twice: `Value.same` takes no notice of the order of
entries, and a number that is not one equals itself. -/

namespace MachineActuator.Yaml

/-- A number that is no integer, or is written like one that is not. -/
inductive Real where
  | finite (value : Binary64)
  | infinite (negative : Bool)
  | undefined
deriving DecidableEq

/-- Equality of such numbers: both zeros are one. -/
def Real.same : Real → Real → Bool
  | finite x, finite y => x.same y
  | x, y => x = y

theorem Real.same_refl (x : Real) : x.same x = true := by
  cases x with
  | finite x => exact x.same_refl
  | infinite n => simp [Real.same]
  | undefined => simp [Real.same]

inductive Value where
  | null
  | bool (value : Bool)
  | int (value : Int)
  | real (value : Real)
  | text (value : String)
  | list (items : List Value)
  | mapping (entries : List (Value × Value))
  /-- A value with a tag that only this document gives a meaning. -/
  | tagged (tag : String) (value : Value)

namespace Value

mutual

def same : Value → Value → Bool
  | null, null => true
  | bool a, bool b => a = b
  | int a, int b => a = b
  | real a, real b => a.same b
  | text a, text b => a = b
  | list as, list bs => sameItems as bs
  | mapping as, mapping bs => as.length = bs.length && haveEntries bs as
  | tagged t a, tagged u b => t = u && same a b
  | _, _ => false

def sameItems : List Value → List Value → Bool
  | [], [] => true
  | a :: as, b :: bs => same a b && sameItems as bs
  | _, _ => false

/-- Whether each of the entries on the right is among those on the left. -/
def haveEntries (bs : List (Value × Value)) : List (Value × Value) → Bool
  | [] => true
  | (k, v) :: rest => (bs.any fun (l, w) => same k l && same v w) && haveEntries bs rest

end

mutual

/-- A value equals itself, even if it holds numbers that are not one. -/
theorem same_refl : ∀ v : Value, v.same v = true
  | null => by simp [same]
  | bool b => by simp [same]
  | int n => by simp [same]
  | real x => by simp [same, Real.same_refl]
  | text s => by simp [same]
  | list items => by simp [same, sameItems_refl items]
  | mapping entries => by simp [same, haveEntries_of_subset entries entries fun _ h => h]
  | tagged t v => by simp [same, same_refl v]

theorem sameItems_refl : ∀ items : List Value, sameItems items items = true
  | [] => by simp [sameItems]
  | v :: rest => by simp [sameItems, same_refl v, sameItems_refl rest]

theorem haveEntries_of_subset (bs : List (Value × Value)) :
    ∀ as : List (Value × Value), (∀ e ∈ as, e ∈ bs) → haveEntries bs as = true
  | [], _ => by simp [haveEntries]
  | (k, v) :: rest, h => by
    have first : (bs.any fun (l, w) => k.same l && v.same w) = true :=
      List.any_eq_true.2 ⟨(k, v), h _ (by simp), by simp [same_refl k, same_refl v]⟩
    have others := haveEntries_of_subset bs rest fun e he => h e (by simp [he])
    simp [haveEntries, first, others]

end

/-- The value without its tags. -/
def untagged : Value → Value
  | tagged _ v => untagged v
  | v => v

end Value

end MachineActuator.Yaml
