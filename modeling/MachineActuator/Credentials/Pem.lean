import MachineActuator.Text.Base64

/-! # PEM

Certificates and keys as sections of a text: base64 between two marks that name what it is.  What
stands between sections does not count. -/

namespace MachineActuator

structure PemSection where
  label : String
  contents : ByteArray
deriving DecidableEq

namespace Pem

/-- What stands before a mark and behind it. -/
def splitAt? (mark : List Char) : List Char → Option (List Char × List Char)
  | [] => if mark.isEmpty then some ([], []) else none
  | c :: rest =>
    if mark.isPrefixOf (c :: rest) then some ([], (c :: rest).drop mark.length)
    else (splitAt? mark rest).map fun (front, rest) => (c :: front, rest)

/-- Blanks and ends of lines. -/
def isBlank (c : Char) : Bool := c = ' ' || c = '\t' || c = '\n' || c = '\r'

/-- The first section with its two labels, the text between its marks, and the rest. -/
def takeSection? (cs : List Char) : Option (List Char × List Char × List Char × List Char) := do
  let (_, rest) ← splitAt? "-----BEGIN ".toList cs
  let (label, rest) ← splitAt? "-----".toList rest
  let (body, rest) ← splitAt? "-----END ".toList (rest.dropWhile isBlank)
  let (closing, rest) ← splitAt? "-----".toList rest
  pure (label, closing, body, rest)

/-- Headers, each with a colon, stand before an empty line. -/
def dropHeaders? (body : List Char) : Option (List Char) :=
  match splitAt? ['\n', '\n'] body <|> splitAt? ['\r', '\n', '\r', '\n'] body with
  | none => some body
  | some (headers, rest) =>
    if ((String.ofList headers).splitOn "\n").all (·.contains ':') || headers.isEmpty then
      some rest
    else none

/-- A section from its parts. -/
def section? (label closing body : List Char) : Option PemSection := do
  if label.isEmpty || label ≠ closing then none
  let digits := (← dropHeaders? body).filter fun c => !isBlank c
  let contents ← Base64.decode? (String.ofList digits)
  pure { label := String.ofList label, contents }

/-- The sections of a text, at most so many. -/
def readSections? (fuel : Nat) (cs : List Char) : Option (List PemSection) :=
  match fuel, takeSection? cs with
  | fuel + 1, some (label, closing, body, rest) => do
    let first ← section? label closing body
    (first :: ·) <$> readSections? fuel rest
  | _, _ => some []

/-- The sections of a text; one that does not end does not count. -/
def read? (bytes : ByteArray) : Option (List PemSection) :=
  readSections? bytes.size (bytes.toList.map fun b => Char.ofNat b.toNat)

/-- A text that is given in base64; it ends with a line. -/
def load? (data : String) : Option ByteArray := do
  let bytes ← Base64.decode? data
  pure (if bytes.toList.getLast? = some 10 then bytes else bytes.push 10)

end Pem

end MachineActuator
