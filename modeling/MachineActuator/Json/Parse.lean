import MachineActuator.Json.Basic

/-! # Reading JSON

Strict JSON: one value between blanks and nothing after it, no control character inside a string,
no surrogate escape without its partner, lists and objects nested at most 127 deep.  Of two fields
with one name the last counts.  `Json.ofBytes?` also asks for valid UTF-8. -/

namespace MachineActuator.Json

/-- The deepest nesting of lists and objects that is read. -/
def maxDepth : Nat := 127

def skipBlanks : List Char → List Char
  | c :: rest =>
    if c = ' ' ∨ c = '\n' ∨ c = '\t' ∨ c = '\r' then skipBlanks rest else c :: rest
  | [] => []

/-- The value of a digit of base sixteen. -/
def hexValue? (c : Char) : Option Nat :=
  if '0' ≤ c ∧ c ≤ '9' then some (c.toNat - '0'.toNat)
  else if 'a' ≤ c ∧ c ≤ 'f' then some (c.toNat - 'a'.toNat + 10)
  else if 'A' ≤ c ∧ c ≤ 'F' then some (c.toNat - 'A'.toNat + 10)
  else none

/-- The value of four digits of base sixteen. -/
def hexQuad? (a b c d : Char) : Option Nat := do
  let a ← hexValue? a
  let b ← hexValue? b
  let c ← hexValue? c
  let d ← hexValue? d
  pure (((a * 16 + b) * 16 + c) * 16 + d)

/-- The character of an escape of one letter. -/
def plainEscape? (c : Char) : Option Char :=
  if c = '"' ∨ c = '\\' ∨ c = '/' then some c
  else if c = 'b' then some '\x08'
  else if c = 'f' then some '\x0c'
  else if c = 'n' then some '\n'
  else if c = 'r' then some '\r'
  else if c = 't' then some '\t'
  else none

/-- The rest of a string behind its opening quote; the characters so far are kept in reverse. -/
def readString (seen : List Char) : List Char → Option (String × List Char)
  | '"' :: rest => some (String.ofList seen.reverse, rest)
  | '\\' :: 'u' :: a :: b :: c :: d :: rest => do
    let n ← hexQuad? a b c d
    if n < 0xD800 ∨ 0xDFFF < n then readString (Char.ofNat n :: seen) rest
    else if 0xDC00 ≤ n then none
    else
      match rest with
      | '\\' :: 'u' :: a :: b :: c :: d :: rest => do
        let m ← hexQuad? a b c d
        if m < 0xDC00 ∨ 0xDFFF < m then none
        else readString (Char.ofNat (0x10000 + (n - 0xD800) * 0x400 + (m - 0xDC00)) :: seen) rest
      | _ => none
  | '\\' :: c :: rest => do
    let e ← plainEscape? c
    readString (e :: seen) rest
  | c :: rest => if c < ' ' then none else readString (c :: seen) rest
  | [] => none

/-- Takes a word off the front of the text. -/
def expect : List Char → List Char → Option (List Char)
  | [], cs => some cs
  | w :: ws, c :: cs => if w = c then expect ws cs else none
  | _ :: _, [] => none

mutual

/-- The value at the front of the text, with `depth` more levels of nesting allowed.  Every level
of recursion takes one unit of fuel. -/
def readValue (fuel depth : Nat) (cs : List Char) : Option (Json × List Char) :=
  match fuel with
  | 0 => none
  | fuel + 1 =>
    match skipBlanks cs with
    | 'n' :: rest => (expect ['u', 'l', 'l'] rest).map (.null, ·)
    | 't' :: rest => (expect ['r', 'u', 'e'] rest).map (.bool true, ·)
    | 'f' :: rest => (expect ['a', 'l', 's', 'e'] rest).map (.bool false, ·)
    | '"' :: rest => (readString [] rest).map fun (s, rest) => (.str s, rest)
    | '[' :: rest =>
      match depth with
      | 0 => none
      | depth + 1 =>
        match skipBlanks rest with
        | ']' :: rest => some (.arr [], rest)
        | rest => readItems fuel depth [] rest
    | '\x7b' :: rest =>
      match depth with
      | 0 => none
      | depth + 1 =>
        match skipBlanks rest with
        | '\x7d' :: rest => some (.obj [], rest)
        | rest => readFields fuel depth [] rest
    | rest => (Number.read rest).map fun (n, rest) => (.num n, rest)

/-- One item and those after it, up to the closing bracket; the items so far in reverse. -/
def readItems (fuel depth : Nat) (seen : List Json) (cs : List Char) :
    Option (Json × List Char) :=
  match fuel with
  | 0 => none
  | fuel + 1 =>
    match readValue fuel depth cs with
    | none => none
    | some (x, rest) =>
      match skipBlanks rest with
      | ',' :: rest => readItems fuel depth (x :: seen) rest
      | ']' :: rest => some (.arr (x :: seen).reverse, rest)
      | _ => none

/-- One field and those after it, up to the closing brace. -/
def readFields (fuel depth : Nat) (seen : List (String × Json)) (cs : List Char) :
    Option (Json × List Char) :=
  match fuel with
  | 0 => none
  | fuel + 1 =>
    match skipBlanks cs with
    | '"' :: rest =>
      match readString [] rest with
      | none => none
      | some (key, rest) =>
        match skipBlanks rest with
        | ':' :: rest =>
          match readValue fuel depth rest with
          | none => none
          | some (x, rest) =>
            match skipBlanks rest with
            | ',' :: rest => readFields fuel depth (Entries.insert key x seen) rest
            | '\x7d' :: rest => some (.obj (Entries.insert key x seen), rest)
            | _ => none
        | _ => none
    | _ => none

end

/-- Reads a text that holds one value. -/
def parse? (text : String) : Option Json := do
  let cs := text.toList
  let (v, rest) ← readValue (2 * cs.length + 2) maxDepth cs
  if (skipBlanks rest).isEmpty then pure v else none

/-- Reads bytes that hold one value in UTF-8. -/
def ofBytes? (bytes : ByteArray) : Option Json := String.fromUTF8? bytes >>= parse?

def utf8 (text : String) : ByteArray := text.toUTF8

end MachineActuator.Json
