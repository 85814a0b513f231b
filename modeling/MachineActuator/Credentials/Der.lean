/-! # DER

The outline of certificates and keys: elements, each with a tag and a length, inside one another. -/

namespace MachineActuator.Der

/-- The tag of a bit string. -/
def bitString : UInt8 := 3

/-- The tag of a sequence. -/
def sequence : UInt8 := 0x30

/-- A length: below 128 one byte, else the number of bytes that follow and the length in them. -/
def readLength? : List UInt8 → Option (Nat × List UInt8)
  | [] => none
  | n :: rest =>
    if n < 128 then some (n.toNat, rest)
    else
      let width := n.toNat - 128
      let length := (rest.take width).foldl (fun acc b => acc * 256 + b.toNat) 0
      if width = 0 || 4 < width then none
      else some (length, rest.drop width)

/-- The first element as tag and contents, and the rest. -/
def readElement? : List UInt8 → Option (UInt8 × List UInt8 × List UInt8)
  | [] => none
  | tag :: rest => do
    let (length, rest) ← readLength? rest
    if rest.length < length then none else some (tag, rest.take length, rest.drop length)

/-- The tags of elements, at most so many. -/
def readTags? (fuel : Nat) (bytes : List UInt8) : Option (List UInt8) :=
  match fuel, bytes with
  | _, [] => some []
  | 0, _ => none
  | fuel + 1, bytes => do
    let (tag, _, rest) ← readElement? bytes
    (tag :: ·) <$> readTags? fuel rest

/-- The tags inside a sequence that is all there is. -/
def insideSequence? (bytes : List UInt8) : Option (List UInt8) :=
  match readElement? bytes with
  | some (tag, contents, []) => if tag = sequence then readTags? contents.length contents else none
  | _ => none

/-- Whether the bytes have the outline of a certificate: what is certified, how it is signed, and
the signature. -/
def isCertificate (bytes : ByteArray) : Bool :=
  insideSequence? bytes.toList = some [sequence, sequence, bitString]

def isKey (bytes : ByteArray) : Bool := (insideSequence? bytes.toList).isSome

end MachineActuator.Der
