/-! # The characters of a document

Indentation decides the structure of a YAML document, so each character is kept with its place.
All spellings of a line break become one newline, except for the two separators of Unicode, which
stay what they are (`Glyph.ofText?`). -/

namespace MachineActuator.Yaml

/-- A character with its place: how many characters and lines stand before it, and how many
characters before it in its line. -/
structure Glyph where
  char : Char
  index : Nat
  line : Nat
  column : Nat
deriving DecidableEq

/-- Spaces and tabs. -/
def isBlank (c : Char) : Bool := c = ' ' || c = '\t'

/-- The ends of lines. -/
def isBreak (c : Char) : Bool := c = '\n' || c = '\u2028' || c = '\u2029'

/-- Whether a character may stand in a document. -/
def isPrintable (c : Char) : Bool :=
  c = '\t' || c = '\n' || c = '\r' || (' ' ≤ c && c ≤ '~') || c = '\u0085' ||
    ('\u00a0' ≤ c && c ≤ '\ufffd') || '\uffff' < c

namespace Glyph

/-- Gives each character its place. -/
def place (index line column : Nat) : List Char → List Glyph
  | [] => []
  | '\r' :: '\n' :: rest => ⟨'\n', index, line, column⟩ :: place (index + 2) (line + 1) 0 rest
  | c :: rest =>
    let c := if c = '\r' || c = '\u0085' then '\n' else c
    if isBreak c then ⟨c, index, line, column⟩ :: place (index + 1) (line + 1) 0 rest
    else ⟨c, index, line, column⟩ :: place (index + 1) line (column + 1) rest

/-- The characters of a text, all of which have to be printable. -/
def ofText? (text : String) : Option (List Glyph) :=
  if text.toList.all isPrintable then some (place 0 0 0 text.toList) else none

def startsWith (c : Char) : List Glyph → Bool
  | g :: _ => g.char = c
  | [] => false

def endsWord : List Glyph → Bool
  | g :: _ => isBlank g.char || isBreak g.char
  | [] => true

/-- The characters in front that are of a kind, and the rest. -/
def takeAll (kind : Char → Bool) (gs : List Glyph) : List Char × List Glyph :=
  let (front, rest) := gs.span fun g => kind g.char
  (front.map (·.char), rest)

def skipBlanks (gs : List Glyph) : List Glyph := gs.dropWhile fun g => isBlank g.char

/-- Drops the rest of a line that holds nothing but blanks and a comment. -/
def skipLine? (gs : List Glyph) : Option (List Glyph) :=
  let rest := skipBlanks gs
  let rest := if startsWith '#' rest then rest.dropWhile fun g => !isBreak g.char else rest
  match rest with
  | [] => some []
  | g :: rest => if isBreak g.char then some rest else none

/-- Whether three equal characters mark the start or the end of a document here. -/
def isDocumentMark (mark : Char) : List Glyph → Bool
  | a :: b :: c :: rest =>
    a.column = 0 && a.char = mark && b.char = mark && c.char = mark && endsWord rest
  | _ => false

/-- Whether a document starts or ends here. -/
def isDocumentEdge (gs : List Glyph) : Bool := isDocumentMark '-' gs || isDocumentMark '.' gs

end Glyph

end MachineActuator.Yaml
