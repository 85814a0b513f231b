import MachineActuator.Host.Ipv4

/-! # Names of servers

The name that the certificate of a server bears: a DNS name or an address. -/

namespace MachineActuator.ServerName

/-! ### DNS names -/

/-- Whether a character may stand in a label. -/
def isLabelCharacter (c : Char) : Bool := c.isAlphanum || c = '-' || c = '_'

/-- Whether a text is a label of a DNS name: at most 63 characters with no hyphen at either end. -/
def isLabel (label : List Char) : Bool :=
  !label.isEmpty && label.length ≤ 63 && label.all isLabelCharacter &&
    label.head? ≠ some '-' && label.getLast? ≠ some '-'

/-- Whether labels make up a DNS name: the last one is no number, or is followed by a dot. -/
def areLabels : List (List Char) → Bool
  | [] => false
  | [last] => isLabel last && !last.all Char.isDigit
  | [last, []] => isLabel last
  | label :: rest => isLabel label && areLabels rest

def isDnsName (text : String) : Bool :=
  text.utf8ByteSize ≤ 253 && areLabels (Ipv4.splitDots [] text.toList)

/-! ### Addresses -/

/-- How many groups of 16 bits some groups of digits stand for; the last may be an IPv4 address. -/
def countGroups? : List String → Option Nat
  | [] => some 0
  | [last] =>
    if (Ipv4.read? last).isSome then some 2
    else if last.length ≤ 4 && (Ipv4.number? 16 last.toList).isSome then some 1
    else none
  | group :: rest =>
    if group.length ≤ 4 && (Ipv4.number? 16 group.toList).isSome then
      (countGroups? rest).map (· + 1)
    else none

/-- The groups between colons; an empty text has none. -/
def groups (text : String) : List String := if text.isEmpty then [] else text.splitOn ":"

/-- Whether a text is an IPv6 address: eight groups, or fewer with a gap of zeros between two
colons. -/
def isIpv6 (text : String) : Bool :=
  match text.splitOn "::" with
  | [whole] => countGroups? (groups whole) = some 8
  | [front, back] =>
    match countGroups? (groups front), countGroups? (groups back) with
    | some m, some n => m + n < 8 && !front.contains '.'
    | _, _ => false
  | _ => false

/-- Whether a text names a server. -/
def isValid (text : String) : Bool :=
  isDnsName text || (Ipv4.read? text).isSome || isIpv6 text

end MachineActuator.ServerName
