import MachineActuator.Yaml.Layout

/-! # Nodes

The tree of a document: scalars, lists and mappings, each with a tag or an anchor or both, and
references to anchors.  Anchors are numbered; a number is not always free, and a reference leads to
the last node that has its number (`Node.anchored?`). -/

namespace MachineActuator.Yaml

/-- What stands in front of a node. -/
structure Properties where
  tag : Option String := none
  anchor : Option Nat := none
deriving DecidableEq

/-- A part of a document. -/
inductive Node where
  | reference (anchor : Nat)
  | scalar (properties : Properties) (text : String) (isPlain : Bool)
  | list (properties : Properties) (items : List Node)
  | mapping (properties : Properties) (entries : List (Node × Node))

namespace Node

/-- A node that is not written. -/
def absent : Node := .scalar {} "" true

mutual

/-- The nodes that have an anchor with this number, in order of their beginnings. -/
def withAnchor (id : Nat) : Node → List Node
  | .reference _ => []
  | .scalar p text isPlain => if p.anchor = some id then [.scalar p text isPlain] else []
  | .list p items =>
    let inner := withAnchorItems id items
    if p.anchor = some id then .list p items :: inner else inner
  | .mapping p entries =>
    let inner := withAnchorEntries id entries
    if p.anchor = some id then .mapping p entries :: inner else inner

/-- The same for the items of a list. -/
def withAnchorItems (id : Nat) : List Node → List Node
  | [] => []
  | n :: rest => withAnchor id n ++ withAnchorItems id rest

/-- The same for the entries of a mapping. -/
def withAnchorEntries (id : Nat) : List (Node × Node) → List Node
  | [] => []
  | (k, v) :: rest => withAnchor id k ++ withAnchor id v ++ withAnchorEntries id rest

end

/-- The node that a reference leads to. -/
def anchored? (root : Node) (id : Nat) : Option Node := (withAnchor id root).getLast?

mutual

/-- How many marks it takes to write a node: one for a scalar or a reference, and one at each end of
everything else. -/
def size : Node → Nat
  | .reference _ | .scalar .. => 1
  | .list _ items => sizeItems items + 2
  | .mapping _ entries => sizeEntries entries + 2

/-- The same for the items of a list. -/
def sizeItems : List Node → Nat
  | [] => 0
  | n :: rest => size n + sizeItems rest

/-- The same for the entries of a mapping. -/
def sizeEntries : List (Node × Node) → Nat
  | [] => 0
  | (k, v) :: rest => size k + size v + sizeEntries rest

end

end Node

/-! ### Reading -/

/-- What is left of the tokens, and what is known of the document. -/
structure Source where
  tokens : List Token
  /-- Anchors so far with their numbers. -/
  anchors : List (String × Nat) := []
  /-- Handles of tags with what they are short for. -/
  handles : List (String × String) := []

abbrev Reader : Type → Type := StateT Source Option

namespace Reader

def nextIs (kind : Token → Bool) : Reader Bool := do
  pure ((← get).tokens.head?.any kind)

/-- Drops the next token. -/
def skip : Reader Unit := modify fun s => { s with tokens := s.tokens.tail }

/-- Takes the next token if it is this one, and says whether it was. -/
def accept (t : Token) : Reader Bool := do
  let found ← nextIs (· = t)
  if found then skip
  pure found

/-! ### Properties -/

/-- Numbers an anchor: by how many names there were before. -/
def numberAnchor (name : String) : Reader Nat := do
  let s ← get
  let id := s.anchors.length
  set { s with anchors := (name, id) :: s.anchors.filter (·.1 ≠ name) }
  pure id

def fullTag (handle suffix : String) : Reader String := do
  if handle.isEmpty then pure suffix
  else
    let meaning ← StateT.lift ((← get).handles.lookup handle)
    pure (meaning ++ suffix)

def readAnchor : Reader (Option Nat) := do
  match (← get).tokens.head? with
  | some (.anchor name) => do
    skip
    some <$> numberAnchor name
  | _ => pure none

def readTag : Reader (Option String) := do
  match (← get).tokens.head? with
  | some (.tag handle suffix) => do
    skip
    some <$> fullTag handle suffix
  | _ => pure none

/-- An anchor and a tag in any order. -/
def readProperties : Reader Properties := do
  let anchor ← readAnchor
  let tag ← readTag
  if anchor.isSome then pure { tag, anchor } else pure { tag, anchor := ← readAnchor }

/-! ### Nodes -/

/-- Where a node may stand. -/
inductive Place where
  /-- Inside brackets. -/
  | flow
  /-- In a block. -/
  | block
  /-- In an entry of a mapping, where a list need not be indented. -/
  | entry
deriving DecidableEq

/-- A node, unless the next token is of a kind. -/
def absentBefore (kind : Token → Bool) (node : Reader Node) : Reader Node := do
  if ← nextIs kind then pure .absent else node

/-- Whether a list in a block goes on or ends. -/
def endsItem (t : Token) : Bool := t = .dash || t = .blockEnd

/-- Whether a mapping in a block goes on or ends. -/
def endsEntry (t : Token) : Bool := t = .key || t = .value || t = .blockEnd

/-- A lone exclamation mark before a scalar is no tag. -/
def scalarProperties (p : Properties) : Properties :=
  if p.tag = some "!" then { p with tag := none } else p

mutual

def readNode (fuel : Nat) (place : Place) : Reader Node :=
  match fuel with
  | 0 => failure
  | fuel + 1 => do
    match (← get).tokens.head? with
    | some (.reference name) => do
      skip
      pure (.reference (← StateT.lift ((← get).anchors.lookup name)))
    | _ => do
      let p ← readProperties
      match (← get).tokens.head? with
      | some (.scalar text isPlain) => do
        skip
        pure (.scalar (scalarProperties p) text isPlain)
      | some .openBracket => do
        skip
        .list p <$> readFlowItems fuel true
      | some .openBrace => do
        skip
        .mapping p <$> readFlowEntries fuel true
      | t =>
        if t = some .dash && place = .entry then .list p <$> readOpenItems fuel
        else if t = some .listBlock && place ≠ .flow then do
          skip
          .list p <$> readItems fuel
        else if t = some .mappingBlock && place ≠ .flow then do
          skip
          .mapping p <$> readEntries fuel
        else if p = {} then failure
        else pure (.scalar p "" true)

/-- The items of a list in a block of its own. -/
def readItems (fuel : Nat) : Reader (List Node) :=
  match fuel with
  | 0 => failure
  | fuel + 1 => do
    if ← accept .dash then
      let n ← absentBefore endsItem (readNode fuel .block)
      (n :: ·) <$> readItems fuel
    else if ← accept .blockEnd then pure []
    else failure

/-- The items of a list that is not indented. -/
def readOpenItems (fuel : Nat) : Reader (List Node) :=
  match fuel with
  | 0 => failure
  | fuel + 1 => do
    if ← accept .dash then
      let n ← absentBefore (fun t => endsItem t || endsEntry t) (readNode fuel .block)
      (n :: ·) <$> readOpenItems fuel
    else pure []

/-- The entries of a mapping in a block. -/
def readEntries (fuel : Nat) : Reader (List (Node × Node)) :=
  match fuel with
  | 0 => failure
  | fuel + 1 => do
    if ← accept .key then
      let k ← absentBefore endsEntry (readNode fuel .entry)
      let v ←
        if ← accept .value then absentBefore endsEntry (readNode fuel .entry) else pure .absent
      ((k, v) :: ·) <$> readEntries fuel
    else if ← accept .blockEnd then pure []
    else failure

/-- The items of a list between brackets; one may be a mapping of one entry. -/
def readFlowItems (fuel : Nat) (isFirst : Bool) : Reader (List Node) :=
  match fuel with
  | 0 => failure
  | fuel + 1 => do
    if ← accept .closeBracket then pure []
    else
      let separated ← if isFirst then pure true else accept .comma
      if !separated then failure
      if ← accept .closeBracket then pure []
      else
        let ends (t : Token) : Bool := t = .comma || t = .closeBracket
        let n ←
          if ← accept .key then
            let noKey ← nextIs fun t => t = .value || ends t
            let k ← if noKey then skip *> pure .absent else readNode fuel .flow
            let v ←
              if ← accept .value then absentBefore ends (readNode fuel .flow) else pure .absent
            pure (.mapping {} [(k, v)])
          else readNode fuel .flow
        (n :: ·) <$> readFlowItems fuel false

/-- The entries of a mapping between braces; one may be a key alone. -/
def readFlowEntries (fuel : Nat) (isFirst : Bool) : Reader (List (Node × Node)) :=
  match fuel with
  | 0 => failure
  | fuel + 1 => do
    if ← accept .closeBrace then pure []
    else
      let separated ← if isFirst then pure true else accept .comma
      if !separated then failure
      if ← accept .closeBrace then pure []
      else
        let ends (t : Token) : Bool := t = .comma || t = .closeBrace
        let entry ←
          if ← accept .key then
            let k ← absentBefore (fun t => t = .value || ends t) (readNode fuel .flow)
            let v ←
              if ← accept .value then absentBefore ends (readNode fuel .flow) else pure .absent
            pure (k, v)
          else
            let k ← readNode fuel .flow
            pure (k, .absent)
        (entry :: ·) <$> readFlowEntries fuel false

end

/-! ### Documents -/

/-- The handles that every document has, unless it gives them another meaning. -/
def usualHandles : List (String × String) := [("!", "!"), ("!!", "tag:yaml.org,2002:")]

/-- The directives of a document: at most one version, which has to be a known one, and different
handles. -/
def readDirectives (versioned : Bool) (handles : List (String × String)) :
    List Token → Option (List (String × String) × List Token)
  | .version major minor :: rest =>
    if versioned || major ≠ 1 || (minor ≠ 1 && minor ≠ 2) then none
    else readDirectives true handles rest
  | .shorthand name meaning :: rest =>
    if (handles.lookup name).isSome then none
    else readDirectives versioned ((name, meaning) :: handles) rest
  | rest => some (handles ++ usualHandles, rest)

def beginsDocument : Token → Bool
  | .version .. | .shorthand .. | .documentStart => true
  | _ => false

/-- The content of a document that begins with a mark. -/
def readContent (fuel : Nat) : Reader Node :=
  absentBefore (fun t => beginsDocument t || t = .documentEnd) do
    if (← get).tokens.isEmpty then pure .absent else readNode fuel .block

/-- A document; the first one may begin without a mark. -/
def readDocument (isFirst : Bool) : Reader Node := do
  let s ← get
  let fuel := 3 * s.tokens.length + 3
  let node ←
    if isFirst && !(← nextIs beginsDocument) then
      set { s with anchors := [], handles := usualHandles }
      readNode fuel .block
    else
      let (handles, rest) ← StateT.lift (readDirectives false [] s.tokens)
      set ({ tokens := rest, handles } : Source)
      if ← accept .documentStart then readContent fuel else failure
  let _ ← accept .documentEnd
  pure node

/-- The documents of a text, at most so many.  There is at least one. -/
def readDocuments (fuel : Nat) (isFirst : Bool) : Reader (List Node) :=
  match fuel with
  | 0 => failure
  | fuel + 1 => do
    if !isFirst then
      modify fun s => { s with tokens := s.tokens.dropWhile (· = .documentEnd) }
    if (← get).tokens.isEmpty then pure (if isFirst then [.absent] else [])
    else
      let n ← readDocument isFirst
      (n :: ·) <$> readDocuments fuel false

end Reader

/-- The documents of a text. -/
def Node.ofText? (text : String) : Option (List Node) := do
  let tokens ← Token.ofText? text
  let (documents, _) ← (Reader.readDocuments (tokens.length + 2) true).run { tokens }
  pure documents

end MachineActuator.Yaml
