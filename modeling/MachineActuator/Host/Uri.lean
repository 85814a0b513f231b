/-! # Web addresses

An address has a scheme and an authority, both of which may be missing, a path, and a query.
`Uri.read?` takes an absolute address, an authority alone, or a path with a query alone; a fragment
is dropped. -/

namespace MachineActuator

/-- Why a text is no web address. -/
inductive UriError where
  | invalidCharacter
  | invalidAuthority
  | invalidFormat
  | schemeTooLong
  | tooLong
  | empty
deriving DecidableEq

def UriError.message : UriError → String
  | invalidCharacter => "invalid uri character"
  | invalidAuthority => "invalid authority"
  | invalidFormat => "invalid format"
  | schemeTooLong => "scheme too long"
  | tooLong => "uri too long"
  | empty => "empty string"

/-- A web address.  A missing part is empty. -/
structure Uri where
  scheme : String := ""
  authority : String := ""
  path : String := ""
  query : String := ""
deriving DecidableEq

namespace Uri

/-! ### Path and query -/

/-- Whether a character stands for itself in a path. -/
def isPathCharacter (c : Char) : Bool :=
  '\x7f' ≤ c || (' ' < c && c ≠ '<' && c ≠ '>' && c.toNat ≠ 96)

/-- Whether a character stands for itself in a query. -/
def isQueryCharacter (c : Char) : Bool :=
  '\x7f' ≤ c || (' ' < c && c ≠ '"' && c ≠ '<' && c ≠ '>')

/-- Splits a text behind the last character that counts, before a mark that ends it. -/
def splitAt (isMark : Char → Bool) (text : List Char) : List Char × List Char :=
  text.span fun c => !isMark c

/-- A path with a query; what stands behind a hash mark does not count. -/
def readPath (scheme authority : String) (text : List Char) : Except UriError Uri :=
  let (path, rest) := splitAt (fun c => c = '?' || c = '#') text
  let query := match rest with
    | '?' :: rest => (splitAt (· = '#') rest).1
    | _ => []
  if path.all isPathCharacter && query.all isQueryCharacter then
    .ok
      { scheme, authority
        path := if path.isEmpty then "/" else String.ofList path
        query := String.ofList query }
  else .error .invalidCharacter

/-! ### Authority -/

/-- Letters and digits. -/
def isAlphanumeric (c : Char) : Bool :=
  ('0' ≤ c && c ≤ '9') || ('a' ≤ c && c ≤ 'z') || ('A' ≤ c && c ≤ 'Z')

/-- Whether a character may stand in an authority; a percent sign may in its first part. -/
def isAuthorityCharacter (c : Char) : Bool :=
  isAlphanumeric c || c ∈ "!$&\x27()*+,-.:;=@[]_~%".toList

/-- What was seen of an authority. -/
structure AuthorityMarks where
  colons : Nat := 0
  opened : Bool := false
  closed : Bool := false
  percent : Bool := false
  lastIsAt : Bool := false

/-- Takes one more character into account; colons and percent signs before an `@` or inside
brackets do not count. -/
def AuthorityMarks.next (m : AuthorityMarks) (c : Char) : Except UriError AuthorityMarks :=
  let m := { m with lastIsAt := false }
  if c = ':' then
    if 8 ≤ m.colons then .error .invalidAuthority else .ok { m with colons := m.colons + 1 }
  else if c = '[' then
    if m.percent || m.opened then .error .invalidAuthority else .ok { m with opened := true }
  else if c = ']' then
    if !m.opened || m.closed then .error .invalidAuthority
    else .ok { m with closed := true, colons := 0, percent := false }
  else if c = '@' then .ok { m with colons := 0, percent := false, lastIsAt := true }
  else if c = '%' then .ok { m with percent := true }
  else if isAuthorityCharacter c then .ok m
  else .error .invalidCharacter

/-- Whether the whole authority makes sense. -/
def AuthorityMarks.isComplete (m : AuthorityMarks) : Bool :=
  m.opened == m.closed && m.colons ≤ 1 && !m.lastIsAt && !m.percent

/-- The authority in front of a path, a query or a fragment, and the rest. -/
def readAuthority (text : List Char) : Except UriError (String × List Char) := do
  let (authority, rest) := splitAt (fun c => c = '/' || c = '?' || c = '#') text
  let marks ← authority.foldlM AuthorityMarks.next {}
  if marks.isComplete then pure (String.ofList authority, rest) else .error .invalidAuthority

/-! ### Scheme -/

/-- Whether a character may stand in a scheme. -/
def isSchemeCharacter (c : Char) : Bool := isAlphanumeric c || c = '+' || c = '-' || c = '.'

/-- The schemes of the web are written in small letters. -/
def normalScheme (scheme : List Char) : String :=
  let lower := scheme.map Char.toLower
  if lower = "http".toList ∨ lower = "https".toList then String.ofList lower
  else String.ofList scheme

/-- The scheme in front of an authority, and the rest. -/
def readScheme (text : List Char) : Except UriError (Option (String × List Char)) :=
  let (scheme, rest) := splitAt (fun c => !isSchemeCharacter c) text
  match rest with
  | ':' :: '/' :: '/' :: rest =>
    if text.length ≤ 3 then .ok none
    else if 64 < scheme.length then .error .schemeTooLong
    else .ok (some (normalScheme scheme, rest))
  | _ => .ok none

/-! ### Addresses -/

/-- The greatest length in bytes. -/
def maxLength : Nat := 65534

/-- Reads an address. -/
def read (text : String) : Except UriError Uri := do
  if maxLength < text.utf8ByteSize then throw .tooLong
  match text.toList with
  | [] => throw .empty
  | ['*'] => pure { path := "*" }
  | '/' :: rest => readPath "" "" ('/' :: rest)
  | cs =>
    match ← readScheme cs with
    | some (scheme, rest) =>
      let (authority, rest) ← readAuthority rest
      if authority.isEmpty then throw .invalidFormat else readPath scheme authority rest
    | none =>
      let (authority, rest) ← readAuthority cs
      if rest.isEmpty then pure { authority }
      else if cs.length = 1 then throw .invalidCharacter
      else throw .invalidFormat

/-- The address in text form. -/
def render (u : Uri) : String :=
  (if u.scheme.isEmpty then "" else u.scheme ++ "://") ++ u.authority ++ u.path ++
    (if u.query.isEmpty then "" else "?" ++ u.query)

end Uri

end MachineActuator
