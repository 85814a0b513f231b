import MachineActuator.Yaml.Token

/-! # Layout

From the characters of a text to its tokens.  Outside brackets a block opens where a line is
indented further than before, and closes where one is indented less.  That a scalar is a key shows
only at the colon behind it, on the same line and not too far away: until then its place among the
tokens is kept as a candidate (`Candidate`), one for each bracket that is open. -/

namespace MachineActuator.Yaml

/-- Where a key may have begun. -/
structure Candidate where
  /-- Its first character. -/
  start : Glyph
  /-- How many tokens stand before it. -/
  position : Nat
  /-- Whether nothing but a key can stand there. -/
  required : Bool

/-- Whether a candidate is too far behind a character to become a key. -/
def Candidate.isStale (k : Candidate) (g : Glyph) : Bool :=
  k.start.line < g.line || k.start.index + 1024 < g.index

/-- What is known of a text up to some character. -/
structure Layout where
  tokens : Array Token := #[]
  /-- The columns of the open blocks, the innermost first. -/
  indents : List Nat := []
  /-- The candidate inside the innermost bracket. -/
  candidate : Option Candidate := none
  /-- The candidates outside of each open bracket, the innermost first. -/
  outer : List (Option Candidate) := []
  /-- Whether a key may begin at the next token. -/
  keyAllowed : Bool := true

namespace Layout

/-- Whether a bracket is open. -/
def inFlow (l : Layout) : Bool := !l.outer.isEmpty

/-- The least column inside the innermost block. -/
def inside (l : Layout) : Nat := (l.indents.head?.map (· + 1)).getD 0

def push (l : Layout) (t : Token) : Layout := { l with tokens := l.tokens.push t }

/-- Inserts a token before those from a position on. -/
def insert (l : Layout) (position : Nat) (t : Token) : Layout :=
  { l with tokens := l.tokens.insertIdxIfInBounds position t }

/-! ### Blocks -/

/-- Opens a block at a column further to the right, before the tokens from a position on. -/
def openBlock (l : Layout) (column position : Nat) (t : Token) : Layout :=
  if l.inFlow || column < l.inside then l
  else { l with indents := column :: l.indents }.insert position t

/-- Closes the blocks at a column or to the right of it. -/
def closeBlocks (l : Layout) (column : Nat) : Layout :=
  if l.inFlow then l
  else
    let closed := l.indents.takeWhile (column ≤ ·)
    { l with
      indents := l.indents.drop closed.length
      tokens := l.tokens ++ (closed.map fun _ => Token.blockEnd).toArray }

/-! ### Candidates -/

/-- Gives up a candidate. -/
def giveUp : Option Candidate → Option (Option Candidate)
  | some k => if k.required then none else some none
  | none => some none

/-- Gives up the candidates that are too far behind. -/
def giveUpStale (l : Layout) (g : Glyph) : Option Layout := do
  let check (k : Option Candidate) : Option (Option Candidate) :=
    if k.any (·.isStale g) then giveUp k else some k
  pure { l with candidate := ← check l.candidate, outer := ← l.outer.mapM check }

/-- Gives up the candidate inside the innermost bracket, and says whether a key may come next. -/
def noKey (l : Layout) (keyAllowed : Bool) : Option Layout := do
  pure { l with candidate := ← giveUp l.candidate, keyAllowed }

/-- The next token may be a key, if one is allowed; after it none is. -/
def mayBeKey (l : Layout) (g : Glyph) : Option Layout :=
  if l.keyAllowed then do
    let _ ← giveUp l.candidate
    pure
      { l with
        candidate := some
          { start := g, position := l.tokens.size
            required := !l.inFlow && l.indents.head? = some g.column }
        keyAllowed := false }
  else some l

/-! ### Tokens -/

/-- A mark at the edge of a document. -/
def documentMark (l : Layout) (t : Token) : Option Layout := do
  pure ((← (l.closeBlocks 0).noKey false).push t)

def openFlow (l : Layout) (g : Glyph) (t : Token) : Option Layout := do
  let l ← l.mayBeKey g
  pure { l.push t with candidate := none, outer := l.candidate :: l.outer, keyAllowed := true }

def closeFlow (l : Layout) (t : Token) : Option Layout := do
  let l ← l.noKey false
  pure
    (match l.outer with
    | k :: outer => { l with candidate := k, outer }.push t
    | [] => l.push t)

/-- A mark that opens a block when it stands where a key may begin. -/
def blockMark (l : Layout) (g : Glyph) (block t : Token) (keyAllowed : Bool) : Option Layout := do
  if !l.inFlow && !l.keyAllowed then none
  let l := l.openBlock g.column l.tokens.size block
  pure ((← l.noKey keyAllowed).push t)

/-- A colon: the candidate becomes a key, or a value stands without one. -/
def colon (l : Layout) (g : Glyph) : Option Layout :=
  match l.candidate with
  | some k =>
    let l := (l.insert k.position .key).openBlock k.start.column k.position .mappingBlock
    some ({ l with candidate := none, keyAllowed := false }.push .value)
  | none => l.blockMark g .mappingBlock .value !l.inFlow

/-- Whether a plain scalar can begin with a character. -/
def beginsPlain (l : Layout) (c : Char) (rest : List Glyph) : Bool :=
  !(isBlank c || isBreak c || c ∈ "-?:,[]\x7b\x7d#&*!|>\x27\"%@\x60".toList) ||
    (c = '-' && !rest.head?.any fun g => isBlank g.char) ||
    (!l.inFlow && (c = '?' || c = ':') && !Glyph.endsWord rest)

/-- The token that begins with a character. -/
def token (l : Layout) (g : Glyph) (rest : List Glyph) : Option (Layout × List Glyph) := do
  let c := g.char
  if c = '%' && g.column = 0 then
    let (t, rest) ← Token.readDirective? rest
    pure (← l.documentMark t, rest)
  else if Glyph.isDocumentMark '-' (g :: rest) then
    pure (← l.documentMark .documentStart, rest.drop 2)
  else if Glyph.isDocumentMark '.' (g :: rest) then
    pure (← l.documentMark .documentEnd, rest.drop 2)
  else if c = '[' then pure (← l.openFlow g .openBracket, rest)
  else if c = '\x7b' then pure (← l.openFlow g .openBrace, rest)
  else if c = ']' then pure (← l.closeFlow .closeBracket, rest)
  else if c = '\x7d' then pure (← l.closeFlow .closeBrace, rest)
  else if c = ',' then pure ((← l.noKey true).push .comma, rest)
  else if c = '-' && Glyph.endsWord rest then
    pure (← l.blockMark g .listBlock .dash true, rest)
  else if c = '?' && (l.inFlow || Glyph.endsWord rest) then
    pure (← l.blockMark g .mappingBlock .key !l.inFlow, rest)
  else if c = ':' && (l.inFlow || Glyph.endsWord rest) then pure (← l.colon g, rest)
  else if c = '*' then
    let (name, rest) ← Token.readName? rest
    pure ((← l.mayBeKey g).push (.reference name), rest)
  else if c = '&' then
    let (name, rest) ← Token.readName? rest
    pure ((← l.mayBeKey g).push (.anchor name), rest)
  else if c = '!' then
    let (t, rest) ← Token.readTag? l.inFlow rest
    pure ((← l.mayBeKey g).push t, rest)
  else if (c = '|' || c = '>') && !l.inFlow then
    let (text, rest) ← readBlock (c = '>') l.inside rest
    pure ((← l.noKey true).push (.scalar (String.ofList text.reverse) false), rest)
  else if c = '\x27' || c = '"' then
    let (text, rest) ← if c = '"' then readDouble [] .none rest else readSingle [] .none rest
    pure ((← l.mayBeKey g).push (.scalar (String.ofList text.reverse) false), rest)
  else if l.beginsPlain c rest then
    let (text, broken, rest) ← readPlain l.inFlow l.inside [c] .none rest
    let l := (← l.mayBeKey g).push (.scalar (String.ofList text.reverse) true)
    pure ({ l with keyAllowed := l.keyAllowed || broken }, rest)
  else none

/-! ### Texts -/

/-- Skips blanks, comments and ends of lines, after which a key may begin outside brackets.  Where
one may, a tab is no blank. -/
def skipGap (l : Layout) (inComment : Bool) : List Glyph → Layout × List Glyph
  | [] => (l, [])
  | g :: rest =>
    if isBreak g.char then
      skipGap { l with keyAllowed := l.keyAllowed || !l.inFlow } false rest
    else if inComment || g.char = ' ' || (g.char = '\t' && (l.inFlow || !l.keyAllowed)) ||
        (g.char = '\ufeff' && g.column = 0) then
      skipGap l inComment rest
    else if g.char = '#' then skipGap l true rest
    else (l, g :: rest)

/-- Reads the tokens of a text, at most so many. -/
def readTokens? (l : Layout) (fuel : Nat) (gs : List Glyph) : Option (List Token) :=
  match fuel with
  | 0 => none
  | fuel + 1 =>
    match l.skipGap false gs with
    | (l, []) => do
      let l ← (l.closeBlocks 0).noKey false
      pure l.tokens.toList
    | (l, g :: rest) => do
      let l ← l.giveUpStale g
      let (l, rest) ← (l.closeBlocks (g.column + 1)).token g rest
      readTokens? l fuel rest

end Layout

def Token.ofText? (text : String) : Option (List Token) := do
  let gs ← Glyph.ofText? text
  Layout.readTokens? {} (gs.length + 1) gs

end MachineActuator.Yaml
