import MachineActuator.Yaml.Scalar
import MachineActuator.Yaml.Value

/-! # What a scalar stands for

A plain scalar without a tag is a null, a truth value or a number if it looks like one, and else a
text.  Integers may be in base two, eight, ten or sixteen; one in base ten with a zero in front is a
text.  A few tags ask for a certain kind of value. -/

namespace MachineActuator.Yaml

namespace Plain

/-- Whether a text spells a null. -/
def isNull (text : String) : Bool := text ∈ ["~", "null", "Null", "NULL"]

/-- The truth value that a text spells. -/
def bool? (text : String) : Option Bool :=
  if text ∈ ["true", "True", "TRUE"] then some true
  else if text ∈ ["false", "False", "FALSE"] then some false
  else none

/-! ### Integers -/

/-- The number with these digits, at least one. -/
def nat? (base : Nat) (digits : List Char) : Option Nat :=
  if digits.isEmpty then none
  else digits.foldlM (fun n c => do
    let d ← hexDigit? c
    if d < base then some (n * base + d) else none) 0

/-- The number behind a sign. -/
def magnitude? : List Char → Option Nat
  | '0' :: 'x' :: rest => nat? 16 rest
  | '0' :: 'o' :: rest => nat? 8 rest
  | '0' :: 'b' :: rest => nat? 2 rest
  | cs => nat? 10 cs

/-- Drops a sign. -/
def unsigned : List Char → List Char
  | '-' :: rest | '+' :: rest => rest
  | cs => cs

/-- Whether all is digits behind a sign, of which the first of several is zero. -/
def isZeroPadded (cs : List Char) : Bool :=
  match unsigned cs with
  | '0' :: c :: rest => (c :: rest).all fun c => (digit? c).isSome
  | _ => false

/-- The integer that a text spells, if it has at most 128 bits. -/
def int? (cs : List Char) : Option Int := do
  if isZeroPadded cs then none
  let n ← magnitude? (unsigned cs)
  let n : Int := if cs.head? = some '-' then -n else n
  if n < Nat.pow 2 128 ∧ -n ≤ Nat.pow 2 127 then some n else none

/-- An integer as a value: it must fit into 64 bits. -/
def ofInt? (n : Int) : Option Value :=
  if n < Nat.pow 2 64 ∧ -n ≤ Nat.pow 2 63 then some (.int n) else none

/-! ### Other numbers -/

/-- The power of ten behind its mark. -/
def power? (cs : List Char) : Option Int := do
  let n ← nat? 10 (unsigned cs)
  pure (if cs.head? = some '-' then -n else n)

/-- Digits and power of ten of a decimal number without a sign. -/
def decimal? (cs : List Char) : Option (Nat × Int) := do
  let isDigit (c : Char) : Bool := (digit? c).isSome
  let (whole, rest) := cs.span isDigit
  let (fraction, rest) := match rest with
    | '.' :: rest => rest.span isDigit
    | rest => ([], rest)
  let digits ← nat? 10 (whole ++ fraction)
  let power ← match rest with
    | [] => some 0
    | c :: rest => if c = 'e' || c = 'E' then power? rest else none
  pure (digits, power - fraction.length)

/-- The value nearest to `digits * 10 ^ power`, unless it is too large. -/
def nearest? (negative : Bool) (digits : Nat) (power : Int) : Option Binary64 :=
  let lead := Binary64.digitCount digits + power
  if digits = 0 || lead < -400 then Binary64.ofRatio? negative 0 1
  else if 400 < lead then none
  else
    let (num, den) := Binary64.scaleTen digits 1 power
    Binary64.ofRatio? negative num den

/-- The number that a text spells. -/
def real? (text : String) : Option Real :=
  if text ∈ [".inf", ".Inf", ".INF", "+.inf", "+.Inf", "+.INF"] then some (.infinite false)
  else if text ∈ ["-.inf", "-.Inf", "-.INF"] then some (.infinite true)
  else if text ∈ [".nan", ".NaN", ".NAN"] then some .undefined
  else do
    let (digits, power) ← decimal? (unsigned text.toList)
    let x ← nearest? (text.toList.head? = some '-') digits power
    pure (.finite x)

/-! ### Scalars -/

/-- The value of a plain scalar.  An integer between 64 and 128 bits has none. -/
def value? (text : String) : Option Value :=
  if text.isEmpty || isNull text then some .null
  else
    match bool? text, int? text.toList with
    | some b, _ => some (.bool b)
    | none, some n => ofInt? n
    | none, none =>
      match if isZeroPadded text.toList then none else real? text with
      | some x => some (.real x)
      | none => some (.text text)

end Plain

/-- A tag that every document knows. -/
def commonTag (name : String) : String := "tag:yaml.org,2002:" ++ name

/-- The value of a scalar. -/
def scalarValue? (tag : Option String) (text : String) (isPlain : Bool) : Option Value :=
  match tag with
  | none => if isPlain then Plain.value? text else some (.text text)
  | some tag =>
    if tag = commonTag "bool" then (Plain.bool? text).map .bool
    else if tag = commonTag "int" then Plain.int? text.toList >>= Plain.ofInt?
    else if tag = commonTag "float" then (Plain.real? text).map .real
    else if tag = commonTag "null" then if Plain.isNull text then some .null else none
    else some (.text text)

end MachineActuator.Yaml
