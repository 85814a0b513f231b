import MachineActuator.Yaml.Glyph

/-! # Scalars

The texts inside a document: plain ones, which end where the structure goes on; quoted ones; and
blocks of lines.  A single line break between words stands for a space, and of several the first
does not count.  Texts are built back to front. -/

namespace MachineActuator.Yaml

/-! ### Gaps between words -/

/-- What stands between two words: blanks, or line breaks with blanks around them.  The first line
break of a quoted text may be escaped, and then does not count at all. -/
inductive Gap where
  | blanks (seen : List Char)
  | breaks (first : Option Char) (more : List Char)

namespace Gap

def none : Gap := blanks []

/-- Whether a line ends in the gap. -/
def isBroken : Gap → Bool
  | blanks _ => false
  | breaks .. => true

def isEmpty : Gap → Bool
  | blanks seen => seen.isEmpty
  | breaks .. => false

/-- The gap with one more blank or line break: beside line breaks blanks do not count. -/
def add (gap : Gap) (c : Char) : Gap :=
  match gap with
  | blanks seen => if isBreak c then breaks (some c) [] else blanks (c :: seen)
  | breaks first more => if isBreak c then breaks first (c :: more) else breaks first more

/-- What the gap stands for, back to front. -/
def text : Gap → List Char
  | blanks seen => seen
  | breaks (some '\n') [] => [' ']
  | breaks (some '\n') more => more
  | breaks first more => more ++ first.toList

end Gap

/-! ### Plain scalars -/

/-- Marks of lists and mappings between brackets. -/
def isFlowMark (c : Char) : Bool := c = ',' || c = '[' || c = ']' || c = '\x7b' || c = '\x7d'

/-- Whether a plain scalar ends at a character: before a colon at the end of a word, or inside
brackets before a mark of theirs. -/
def endsPlain (inFlow : Bool) (c : Char) (rest : List Glyph) : Bool :=
  (c = ':' && Glyph.endsWord rest) || (inFlow && isFlowMark c)

/-- Whether a colon stands before a mark inside brackets, where it has no meaning. -/
def isStrayColon (inFlow : Bool) (c : Char) : List Glyph → Bool
  | next :: _ => inFlow && c = ':' && (isFlowMark next.char || next.char = '?')
  | [] => false

/-- Reads on in a plain scalar whose further lines are indented at least so far.  Gives the text,
whether a line ended after it, and the rest. -/
def readPlain (inFlow : Bool) (indent : Nat) (text : List Char) (gap : Gap) :
    List Glyph → Option (List Char × Bool × List Glyph)
  | [] => some (text, gap.isBroken, [])
  | g :: rest =>
    if isBlank g.char || isBreak g.char then
      if g.char = '\t' && gap.isBroken && g.column < indent then none
      else readPlain inFlow indent text (gap.add g.char) rest
    else if !gap.isEmpty &&
        ((!inFlow && g.column < indent) || g.char = '#' || Glyph.isDocumentEdge (g :: rest)) then
      some (text, gap.isBroken, g :: rest)
    else if isStrayColon inFlow g.char rest then none
    else if endsPlain inFlow g.char rest then some (text, gap.isBroken, g :: rest)
    else readPlain inFlow indent (g.char :: (gap.text ++ text)) .none rest

/-! ### Quoted scalars -/

/-- The rest of a scalar between single quotes, where two quotes stand for one. -/
def readSingle (text : List Char) (gap : Gap) : List Glyph → Option (List Char × List Glyph)
  | [] => none
  | g :: rest =>
    if isBlank g.char || isBreak g.char then readSingle text (gap.add g.char) rest
    else if Glyph.isDocumentEdge (g :: rest) then none
    else if g.char = '\x27' then
      match rest with
      | next :: rest =>
        if next.char = '\x27' then readSingle ('\x27' :: (gap.text ++ text)) .none rest
        else some (gap.text ++ text, next :: rest)
      | [] => some (gap.text ++ text, [])
    else readSingle (g.char :: (gap.text ++ text)) .none rest

/-- The character of an escape of one letter. -/
def plainEscape? (c : Char) : Option Char :=
  match c with
  | '0' => some '\x00'
  | 'a' => some '\x07'
  | 'b' => some '\x08'
  | 't' | '\t' => some '\t'
  | 'n' => some '\n'
  | 'v' => some '\x0b'
  | 'f' => some '\x0c'
  | 'r' => some '\r'
  | 'e' => some '\x1b'
  | ' ' | '"' | '/' | '\\' => some c
  | 'N' => some '\u0085'
  | '_' => some '\u00a0'
  | 'L' => some '\u2028'
  | 'P' => some '\u2029'
  | _ => none

/-- The value of a digit of base sixteen. -/
def hexDigit? (c : Char) : Option Nat :=
  if '0' ≤ c ∧ c ≤ '9' then some (c.toNat - '0'.toNat)
  else if 'a' ≤ c ∧ c ≤ 'f' then some (c.toNat - 'a'.toNat + 10)
  else if 'A' ≤ c ∧ c ≤ 'F' then some (c.toNat - 'A'.toNat + 10)
  else none

/-- The value of digits of base sixteen. -/
def hexValue? (digits : List Glyph) : Option Nat :=
  digits.foldlM (fun n g => (hexDigit? g.char).map fun d => n * 16 + d) 0

/-- The character whose number is given in digits of base sixteen. -/
def hexChar? (digits : List Glyph) : Option Char := do
  let n ← hexValue? digits
  if n.isValidChar then some (Char.ofNat n) else none

/-- The rest of a scalar between double quotes, where a backslash begins an escape. -/
def readDouble (text : List Char) (gap : Gap) : List Glyph → Option (List Char × List Glyph)
  | [] => none
  | g :: rest =>
    if isBlank g.char || isBreak g.char then readDouble text (gap.add g.char) rest
    else if Glyph.isDocumentEdge (g :: rest) then none
    else if g.char = '"' then some (gap.text ++ text, rest)
    else if g.char = '\\' then
      let text := gap.text ++ text
      match rest with
      | [] => none
      | e :: rest =>
        if isBreak e.char then readDouble text (.breaks none []) rest
        else if e.char = 'x' then
          match rest with
          | a :: b :: rest => do readDouble ((← hexChar? [a, b]) :: text) .none rest
          | _ => none
        else if e.char = 'u' then
          match rest with
          | a :: b :: c :: d :: rest => do
            readDouble ((← hexChar? [a, b, c, d]) :: text) .none rest
          | _ => none
        else if e.char = 'U' then
          match rest with
          | a :: b :: c :: d :: e :: f :: g :: h :: rest => do
            readDouble ((← hexChar? [a, b, c, d, e, f, g, h]) :: text) .none rest
          | _ => none
        else do readDouble ((← plainEscape? e.char) :: text) .none rest
    else readDouble (g.char :: (gap.text ++ text)) .none rest

/-! ### Blocks of lines -/

/-- What becomes of the line breaks at the end of a block. -/
inductive Chomping where
  | strip
  | clip
  | keep

/-- How a block ends, by the sign in its head. -/
def chomping? (c : Char) : Option Chomping :=
  if c = '+' then some .keep else if c = '-' then some .strip else none

def digit? (c : Char) : Option Nat :=
  if '0' ≤ c ∧ c ≤ '9' then some (c.toNat - '0'.toNat) else none

/-- The head of a block: how it ends, and how far it is indented if that is given, in any
order. -/
def readHead (gs : List Glyph) : Option (Chomping × Option Nat × List Glyph) :=
  let sign := gs.head?.bind fun g => chomping? g.char
  let rest := if sign.isSome then gs.tail else gs
  let width := rest.head?.bind fun g => digit? g.char
  let rest := if width.isSome then rest.tail else rest
  let late := if sign.isNone && width.isSome then rest.head?.bind fun g => chomping? g.char
    else none
  let rest := if late.isSome then rest.tail else rest
  if width = some 0 then none
  else (Glyph.skipLine? rest).map (((sign <|> late).getD .clip), width, ·)

/-- Skips empty lines and the indentation of the next line.  While the indentation of the block is
not known, gives the widest there is. -/
def readIndentation (indent : Option Nat) (widest : Nat) (breaks : List Char) :
    List Glyph → Option (Nat × List Char × List Glyph)
  | [] => some (widest, breaks, [])
  | g :: rest =>
    let inside := indent.all (g.column < ·)
    if g.char = ' ' && inside then readIndentation indent (max widest (g.column + 1)) breaks rest
    else if g.char = '\t' && inside then none
    else if isBreak g.char then readIndentation indent widest (g.char :: breaks) rest
    else some (widest, breaks, g :: rest)

/-- The lines of a block so far, back to front, with the line breaks after them. -/
structure Lines where
  text : List Char := []
  /-- The end of the last line. -/
  last : Option Char := none
  /-- The ends of the empty lines after it. -/
  empty : List Char := []
  /-- Whether the last line begins with a blank. -/
  blank : Bool := false

/-- Begins the next line with a character.  In a folded block a line break between lines that
begin with words stands for a space, or for nothing before empty lines. -/
def Lines.begin (ls : Lines) (folded : Bool) (c : Char) : Lines :=
  let joined :=
    if folded && ls.last = some '\n' && !ls.blank && !isBlank c then
      if ls.empty.isEmpty then ' ' :: ls.text else ls.text
    else ls.last.toList ++ ls.text
  { text := c :: (ls.empty ++ joined), last := none, empty := [], blank := isBlank c }

/-- The text of a block. -/
def Lines.close (ls : Lines) : Chomping → List Char
  | .strip => ls.text
  | .clip => ls.last.toList ++ ls.text
  | .keep => ls.empty ++ ls.last.toList ++ ls.text

/-- Reads the lines of a block that are indented so far. -/
def readLines (folded : Bool) (indent : Nat) (inLine : Bool) (ls : Lines) :
    List Glyph → Option (Lines × List Glyph)
  | [] => some (ls, [])
  | g :: rest =>
    if inLine then
      if isBreak g.char then readLines folded indent false { ls with last := some g.char } rest
      else readLines folded indent true { ls with text := g.char :: ls.text } rest
    else if g.char = ' ' && g.column < indent then readLines folded indent false ls rest
    else if g.char = '\t' && g.column < indent then none
    else if isBreak g.char then
      readLines folded indent false { ls with empty := g.char :: ls.empty } rest
    else if g.column = indent then readLines folded indent true (ls.begin folded g.char) rest
    else some (ls, g :: rest)

/-- Reads a block behind its mark; `indent` is how far its lines are indented at least. -/
def readBlock (folded : Bool) (indent : Nat) (gs : List Glyph) :
    Option (List Char × List Glyph) := do
  let (chomping, width, rest) ← readHead gs
  let given := width.map (indent - 1 + ·)
  let (widest, empty, rest) ← readIndentation given 0 [] rest
  let (ls, rest) ←
    readLines folded (given.getD (max widest (max indent 1))) false { empty } rest
  pure (ls.close chomping, rest)

end MachineActuator.Yaml
