import MachineActuator.Yaml.Scalar

/-! # Tokens

A document as a list of tokens, in which the structure that indentation gives is spelled out.  Names
of anchors, tags and directives are read here; a tag is short for a longer one when it begins with a
handle. -/

namespace MachineActuator.Yaml

inductive Token where
  /-- The version of the language. -/
  | version (major minor : Nat)
  /-- What a handle of tags is short for. -/
  | shorthand (name meaning : String)
  | documentStart
  | documentEnd
  /-- A list begins, one item a line. -/
  | listBlock
  /-- A mapping begins, one entry a line. -/
  | mappingBlock
  | blockEnd
  | openBracket
  | closeBracket
  | openBrace
  | closeBrace
  | dash
  | comma
  | key
  | value
  | reference (name : String)
  | anchor (name : String)
  | tag (handle suffix : String)
  | scalar (text : String) (isPlain : Bool)
deriving DecidableEq

namespace Token

def isNameCharacter (c : Char) : Bool :=
  ('0' ≤ c && c ≤ '9') || ('A' ≤ c && c ≤ 'Z') || ('a' ≤ c && c ≤ 'z') || c = '-' || c = '_'

/-- The name of an anchor. -/
def readName? (gs : List Glyph) : Option (String × List Glyph) :=
  let (name, rest) := Glyph.takeAll isNameCharacter gs
  let ends := Glyph.endsWord rest || rest.head?.any fun g => g.char ∈ "?:,]\x7d%@\x60".toList
  if name.isEmpty || !ends then none else some (String.ofList name, rest)

/-! ### Tags -/

/-- Whether a character may stand in a tag; a few more may in one that is written out. -/
def isTagCharacter (whole : Bool) (c : Char) : Bool :=
  isNameCharacter c || c ∈ ";/?:@&=+$.!~*\x27()".toList || (whole && c ∈ ",[]".toList)

/-- The bytes of a tag, back to front.  A byte may be given by two digits of base sixteen. -/
def readTagBytes? (whole : Bool) (seen : List UInt8) :
    List Glyph → Option (List UInt8 × List Glyph)
  | [] => some (seen, [])
  | g :: rest =>
    if g.char = '%' then
      match rest with
      | a :: b :: rest => do
        let n ← hexValue? [a, b]
        readTagBytes? whole (n.toUInt8 :: seen) rest
      | _ => none
    else if isTagCharacter whole g.char then
      readTagBytes? whole (g.char.toNat.toUInt8 :: seen) rest
    else some (seen, g :: rest)

/-- The text of a tag. -/
def readTagText? (whole : Bool) (gs : List Glyph) : Option (String × List Glyph) := do
  let (bytes, rest) ← readTagBytes? whole [] gs
  let text ← String.fromUTF8? ⟨bytes.reverse.toArray⟩
  pure (text, rest)

/-- The text of a tag, which must not be empty. -/
def readFullTagText? (whole : Bool) (gs : List Glyph) : Option (String × List Glyph) := do
  let (text, rest) ← readTagText? whole gs
  if text.isEmpty then none else pure (text, rest)

/-- Handle and suffix of a tag behind its exclamation mark: a tag that is written out has an empty
handle, and so has the mark alone. -/
def readTagParts? (gs : List Glyph) : Option (String × String × List Glyph) := do
  if Glyph.startsWith '<' gs then
    let (text, rest) ← readFullTagText? true gs.tail
    if Glyph.startsWith '>' rest then pure ("", text, rest.tail) else none
  else
    let (name, after) := Glyph.takeAll isNameCharacter gs
    if Glyph.startsWith '!' after then
      let (suffix, rest) ← readFullTagText? false after.tail
      pure ("!" ++ String.ofList name ++ "!", suffix, rest)
    else
      let (suffix, rest) ← readTagText? false gs
      if suffix.isEmpty then pure ("", "!", rest) else pure ("!", suffix, rest)

/-- A tag behind its exclamation mark. -/
def readTag? (inFlow : Bool) (gs : List Glyph) : Option (Token × List Glyph) := do
  let (handle, suffix, rest) ← readTagParts? gs
  if Glyph.endsWord rest || (inFlow && Glyph.startsWith ',' rest) then
    pure (.tag handle suffix, rest)
  else none

/-! ### Directives -/

/-- A number of at most nine digits. -/
def readNumber? (gs : List Glyph) : Option (Nat × List Glyph) :=
  let (digits, rest) := Glyph.takeAll (fun c => (digit? c).isSome) gs
  if digits.isEmpty || 9 < digits.length then none
  else some (digits.foldl (fun n c => n * 10 + (digit? c).getD 0) 0, rest)

def readVersion? (gs : List Glyph) : Option (Token × List Glyph) := do
  let (major, rest) ← readNumber? gs
  if !Glyph.startsWith '.' rest then none
  let (minor, rest) ← readNumber? rest.tail
  pure (.version major minor, rest)

/-- The name of a handle: one exclamation mark, or two around a name that may be empty. -/
def readHandleName? (gs : List Glyph) : Option (String × List Glyph) :=
  if !Glyph.startsWith '!' gs then none
  else
    let (name, rest) := Glyph.takeAll isNameCharacter gs.tail
    if Glyph.startsWith '!' rest then some ("!" ++ String.ofList name ++ "!", rest.tail)
    else if name.isEmpty then some ("!", rest)
    else none

/-- A handle and what it is short for. -/
def readHandle? (gs : List Glyph) : Option (Token × List Glyph) := do
  let (name, rest) ← readHandleName? gs
  if !(rest.head?.any fun g => isBlank g.char) then none
  let (meaning, rest) ← readFullTagText? true (Glyph.skipBlanks rest)
  if Glyph.endsWord rest then pure (.shorthand name meaning, rest) else none

/-- A directive behind its percent sign, up to the end of its line. -/
def readDirective? (gs : List Glyph) : Option (Token × List Glyph) := do
  let (name, rest) := Glyph.takeAll isNameCharacter gs
  if !Glyph.endsWord rest then none
  let rest := Glyph.skipBlanks rest
  let (token, rest) ←
    if name = "YAML".toList then readVersion? rest
    else if name = "TAG".toList then readHandle? rest
    else none
  pure (token, ← Glyph.skipLine? rest)

end Token

end MachineActuator.Yaml
