import MachineActuator.Text.Decimal
import MachineActuator.Time.Calendar
import MachineActuator.Time.Instant

/-! # Times in text form

Times are written in UTC as RFC 3339 has them, with `Z`.  Reading is more lenient: numbers may have
fewer digits and blanks in front, the date ends with `T`, `t` or a blank, a year may have a sign,
and the offset is `Z`, `UTC` or hours and minutes with or without a colon.  A time without an offset
is refused, and so is one outside the years from -262143 to 262142. -/

namespace MachineActuator.Rfc3339

open Decimal (padded)

/-! ### Writing -/

/-- A year: four digits, or a sign and at least four digits beyond them. -/
def writeYear (year : Int) : String :=
  if 0 ≤ year ∧ year ≤ 9999 then padded 4 year.toNat
  else (if year < 0 then "-" else "+") ++ padded 4 year.natAbs

/-- Date and time of day to the second. -/
def writeSeconds (t : Instant) : String :=
  let (year, month, day) := Calendar.ofDayNumber (t.seconds / Instant.daySeconds)
  let second := (t.seconds % Instant.daySeconds).toNat
  writeYear year ++ "-" ++ padded 2 month ++ "-" ++ padded 2 day ++ "T" ++
    padded 2 (second / 3600) ++ ":" ++ padded 2 (second / 60 % 60) ++ ":" ++
    padded 2 (second % 60 + if t.isLeap then 1 else 0)

/-- The fraction of a second with 0, 3, 6 or 9 digits, as few as it needs. -/
def writeFraction (nanos : Nat) : String :=
  if nanos = 0 then ""
  else if nanos % 1000000 = 0 then "." ++ padded 3 (nanos / 1000000)
  else if nanos % 1000 = 0 then "." ++ padded 6 (nanos / 1000)
  else "." ++ padded 9 nanos

/-- The time with the fraction it needs. -/
def write (t : Instant) : String :=
  writeSeconds t ++ writeFraction (t.nanos % 1000000000) ++ "Z"

/-- The time cut to the second. -/
def writeWhole (t : Instant) : String := writeSeconds t ++ "Z"

/-- The time with six digits of a fraction. -/
def writeMicros (t : Instant) : String :=
  writeSeconds t ++ "." ++ padded 6 (t.nanos % 1000000000 / 1000) ++ "Z"

/-! ### Reading -/

/-- Whether a character counts as a blank. -/
def isBlank (c : Char) : Bool :=
  c = ' ' || ('\t' ≤ c && c ≤ '\r') || c = '\x85' || c = '\xa0' || c.toNat = 0x1680 ||
    (0x2000 ≤ c.toNat && c.toNat ≤ 0x200A) || c.toNat = 0x2028 || c.toNat = 0x2029 ||
    c.toNat = 0x202F || c.toNat = 0x205F || c.toNat = 0x3000

def skipBlanks (cs : List Char) : List Char := cs.dropWhile isBlank

/-- The digits in front, at most `width` of them, with their value. -/
def takeDigits (width : Nat) (cs : List Char) : List Char × List Char :=
  let ds := (cs.take width).takeWhile Char.isDigit
  (ds, cs.drop ds.length)

/-- The value of digits. -/
def valueOf (ds : List Char) : Nat := ds.foldl (fun n c => n * 10 + (c.toNat - '0'.toNat)) 0

/-- A number of one to `width` digits behind any blanks. -/
def number? (width : Nat) (cs : List Char) : Option (Nat × List Char) :=
  let (ds, rest) := takeDigits width (skipBlanks cs)
  if ds.isEmpty then none else some (valueOf ds, rest)

/-- A year: a sign and any number of digits, or one to four digits. -/
def year? (cs : List Char) : Option (Int × List Char) :=
  match skipBlanks cs with
  | '-' :: rest => signed rest fun n => -n
  | '+' :: rest => signed rest fun n => n
  | rest => (number? 4 rest).map fun (n, rest) => ((n : Int), rest)
where
  signed (cs : List Char) (f : Int → Int) : Option (Int × List Char) :=
    let (ds, rest) := takeDigits cs.length cs
    if ds.isEmpty then none else some (f (valueOf ds), rest)

/-- Takes a mark off the front, behind any blanks. -/
def mark? (c : Char) (cs : List Char) : Option (List Char) :=
  match skipBlanks cs with
  | d :: rest => if d = c then some rest else none
  | [] => none

/-- The fraction of a second, if there is one: up to nine digits count. -/
def fraction? : List Char → Option (Nat × List Char)
  | '.' :: rest =>
    let (ds, rest) := takeDigits 9 rest
    if ds.isEmpty then none
    else some (valueOf ds * Nat.pow 10 (9 - ds.length), rest.dropWhile Char.isDigit)
  | cs => some (0, cs)

/-- Two digits. -/
def twoDigits? : List Char → Option (Nat × List Char)
  | a :: b :: rest => if a.isDigit && b.isDigit then some (valueOf [a, b], rest) else none
  | _ => none

/-- Hours and minutes of an offset, in seconds. -/
def hoursMinutes? (cs : List Char) : Option (Int × List Char) := do
  let (hours, rest) ← twoDigits? cs
  let (minutes, rest) ← twoDigits? (rest.dropWhile fun c => c = ':' || isBlank c)
  if minutes ≤ 59 then some ((hours * 3600 + minutes * 60 : Nat), rest) else none

/-- The offset from UTC in seconds, less than a day. -/
def offset? (cs : List Char) : Option (Int × List Char) :=
  match skipBlanks cs with
  | 'Z' :: rest | 'z' :: rest => some (0, rest)
  | '+' :: rest => hoursMinutes? rest >>= within
  | '-' :: rest | '\u2212' :: rest =>
    (hoursMinutes? rest).map (fun (n, rest) => (-n, rest)) >>= within
  | u :: t :: c :: rest =>
    if u.toUpper = 'U' && t.toUpper = 'T' && c.toUpper = 'C' then some (0, rest) else none
  | _ => none
where
  within (p : Int × List Char) : Option (Int × List Char) :=
    if p.1.natAbs < 86400 then some p else none

def firstYear : Int := -262143

def lastYear : Int := 262142

/-- An instant within the years that times can have. -/
def inRange (t : Instant) : Option Instant :=
  let day := t.seconds / Instant.daySeconds
  if Calendar.dayNumber firstYear 1 1 ≤ day ∧ day ≤ Calendar.dayNumber lastYear 12 31 then some t
  else none

def read? (text : String) : Option Instant := do
  let (year, cs) ← year? text.toList
  let (month, cs) ← number? 2 (← mark? '-' cs)
  let (day, cs) ← number? 2 (← mark? '-' cs)
  let cs ← match cs with
    | 'T' :: rest | 't' :: rest | ' ' :: rest => some rest
    | _ => none
  let (hour, cs) ← number? 2 cs
  let (minute, cs) ← number? 2 (← mark? ':' cs)
  let (second, cs) ← number? 2 (← mark? ':' cs)
  let (nanos, cs) ← fraction? cs
  let (offset, cs) ← offset? cs
  if !(skipBlanks cs).isEmpty then none
  else if year < firstYear ∨ lastYear < year ∨ month < 1 ∨ 12 < month then none
  else if day < 1 ∨ Calendar.monthLength year month < day then none
  else if 23 < hour ∨ 59 < minute ∨ 60 < second then none
  else
    let time : Int := (hour * 3600 + minute * 60 + min second 59 : Nat)
    inRange
      { seconds := Calendar.dayNumber year month day * Instant.daySeconds + time - offset
        nanos := if second = 60 then nanos + 1000000000 else nanos }

end MachineActuator.Rfc3339
