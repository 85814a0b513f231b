import MachineActuator.Yaml.Node
import MachineActuator.Yaml.Plain

/-! # Documents

From nodes to values: references are replaced by what they lead to.  Since a reference may lead to a
node around itself, and a few of them to a great deal, nodes may be nested only so deep, and only so
many references may be followed. -/

namespace MachineActuator.Yaml

/-- How deep lists and mappings may be nested. -/
def maxDepth : Nat := 128

/-- A reader that may still follow so many references. -/
abbrev Follower : Type → Type := StateT Nat Option

namespace Node

def tag : Node → Option String
  | .reference _ => none
  | .scalar p .. | .list p _ | .mapping p _ => p.tag

/-- A tag that only the document gives a meaning: what stands behind its exclamation mark, and
behind a second one. -/
def localTag? (tag : String) : Option String :=
  match tag.toList with
  | ['!', '!'] => some "!"
  | '!' :: '!' :: rest | '!' :: rest => some (String.ofList rest)
  | _ => none

/-- Puts a tag on a value; it must not be empty. -/
def addTag (tag : Option String) (v : Value) : Option Value :=
  match tag with
  | none => some v
  | some tag => if tag.isEmpty then none else some (.tagged tag v)

/-- Adds an entry with a new key. -/
def addEntry (entries : List (Value × Value)) (k v : Value) : Option (List (Value × Value)) :=
  if entries.any fun (l, _) => k.same l then none else some (entries ++ [(k, v)])

def follow (root : Node) (id : Nat) : Follower Node := do
  let left ← get
  if left = 0 then failure
  set (left - 1)
  StateT.lift (root.anchored? id)

/-- The value of a node whose children are read by `child`, unless it is nested too deep.  Beside a
tag of the document's own no other tag counts, nor do the tags of its keys. -/
def value (child : Option (Bool → Node → Follower Value)) (untagged : Bool) (n : Node) :
    Follower Value := do
  let own := if untagged then none else n.tag >>= localTag?
  let untagged := untagged || own.isSome
  let v ← match n, child with
    | .scalar p text isPlain, _ =>
      StateT.lift (scalarValue? (if untagged then none else p.tag) text isPlain)
    | .list _ items, some child => .list <$> items.mapM (child false)
    | .mapping _ entries, some child =>
      .mapping <$> entries.foldlM (fun seen (k, v) => do
        let k ← child untagged k
        let v ← child false v
        StateT.lift (addEntry seen k v)) []
    | _, _ => failure
  StateT.lift (addTag own v)

/-- The value of a node or of what it refers to. -/
def valueBehind (root : Node) (child : Option (Bool → Node → Follower Value)) (untagged : Bool) :
    Node → Follower Value
  | .reference id => do value child false (← follow root id)
  | n => value child untagged n

/-- The value of a node in which lists and mappings may be nested so deep. -/
def resolve (root : Node) : Nat → Bool → Node → Follower Value
  | 0 => valueBehind root none
  | depth + 1 => valueBehind root (some (resolve root depth))

end Node

/-- The value of a document. -/
def Value.ofNode? (root : Node) : Option Value :=
  ((root.resolve maxDepth false root).run (100 * root.size)).map (·.1)

/-- The documents of a text. -/
def Value.ofText? (text : String) : Option (List Value) := do
  (← Node.ofText? text).mapM Value.ofNode?

end MachineActuator.Yaml
