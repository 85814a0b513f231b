/-! # Addresses of hosts

IPv4 addresses in text form.  `Ipv4.read?` takes four numbers between dots; `Ipv4.ofNumeric?` also
takes the older spellings with fewer parts, of which the last fills the rest of the address, and
with parts in base eight or sixteen. -/

namespace MachineActuator

structure Ipv4 where
  a : UInt8
  b : UInt8
  c : UInt8
  d : UInt8
deriving DecidableEq

namespace Ipv4

/-- The address between dots. -/
def render (ip : Ipv4) : String :=
  Nat.repr ip.a.toNat ++ "." ++ Nat.repr ip.b.toNat ++ "." ++ Nat.repr ip.c.toNat ++ "." ++
    Nat.repr ip.d.toNat

/-- The address with this number. -/
def ofNat (n : Nat) : Ipv4 :=
  ⟨UInt8.ofNat (n / 16777216), UInt8.ofNat (n / 65536), UInt8.ofNat (n / 256), UInt8.ofNat n⟩

def splitDots (current : List Char) : List Char → List (List Char)
  | [] => [current.reverse]
  | '.' :: rest => current.reverse :: splitDots [] rest
  | c :: rest => splitDots (c :: current) rest

/-- The value of a digit in any base up to sixteen. -/
def digit? (base : Nat) (c : Char) : Option Nat :=
  let n :=
    if '0' ≤ c ∧ c ≤ '9' then c.toNat - '0'.toNat
    else if 'a' ≤ c ∧ c ≤ 'f' then c.toNat - 'a'.toNat + 10
    else if 'A' ≤ c ∧ c ≤ 'F' then c.toNat - 'A'.toNat + 10
    else base
  if n < base then some n else none

/-- The value of digits, at least one. -/
def number? (base : Nat) (digits : List Char) : Option Nat :=
  if digits.isEmpty then none
  else digits.foldlM (fun n c => (digit? base c).map fun d => n * base + d) 0

/-- A number below 256 without zeros in front. -/
def octet? (digits : List Char) : Option Nat := do
  if digits.length > 3 ∨ (digits.length > 1 ∧ digits.head? = some '0') then none
  let n ← number? 10 digits
  if n < 256 then some n else none

/-- Reads four numbers between dots. -/
def read? (text : String) : Option Ipv4 :=
  match splitDots [] text.toList with
  | [a, b, c, d] => do
    let a ← octet? a
    let b ← octet? b
    let c ← octet? c
    let d ← octet? d
    some (ofNat (((a * 256 + b) * 256 + c) * 256 + d))
  | _ => none

/-- A number with its base in front: `0x` for sixteen, `0` for eight. -/
def part? : List Char → Option Nat
  | '0' :: 'x' :: rest | '0' :: 'X' :: rest => number? 16 rest
  | ['0'] => some 0
  | '0' :: rest => number? 8 rest
  | digits => number? 10 digits

/-- The number of an address whose parts but the last are bytes. -/
def assemble (acc width : Nat) : List Nat → Option Nat
  | [] => none
  | [last] => if last < Nat.pow 256 width then some (acc * Nat.pow 256 width + last) else none
  | byte :: rest =>
    if byte < 256 then assemble (acc * 256 + byte) (width - 1) rest else none

/-- Reads an address of one to four parts. -/
def ofNumeric? (text : String) : Option Ipv4 := do
  let parts ← (splitDots [] text.toList).mapM part?
  if parts.length > 4 then none
  let n ← assemble 0 4 parts
  some (ofNat n)

/-- The addresses of a host that is named by its address; other names have none here. -/
def resolve (host : String) : List Ipv4 := (read? host <|> ofNumeric? host).toList

end Ipv4

end MachineActuator
