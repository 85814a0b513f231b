/-! # Instants and durations

An instant counts seconds and nanoseconds from the start of 1970 in UTC.  From the tenth digit on
the nanoseconds of an instant lie in a leap second, the second that follows `seconds` without
being counted by it. -/

namespace MachineActuator

/-- A span of time that is not negative. -/
structure Duration where
  seconds : Nat
  nanos : Nat := 0
deriving DecidableEq

namespace Duration

/-- The span of this many seconds. -/
def ofSeconds (seconds : Nat) : Duration := ⟨seconds, 0⟩

/-- Carries nanoseconds beyond a second over to the seconds. -/
def normalize (d : Duration) : Duration :=
  ⟨d.seconds + d.nanos / 1000000000, d.nanos % 1000000000⟩

/-- The span in nanoseconds. -/
def inNanos (d : Duration) : Nat := d.seconds * 1000000000 + d.nanos

end Duration

/-- A point in time. -/
structure Instant where
  seconds : Int
  nanos : Nat
deriving DecidableEq

namespace Instant

def daySeconds : Int := 86400

def isLeap (t : Instant) : Bool := 1000000000 ≤ t.nanos

/-- Nanoseconds from `earlier` to `t`, negative if it is later.  A leap second is counted when it
lies between two times of day. -/
def since (t earlier : Instant) : Int :=
  let a := t.seconds % daySeconds
  let b := earlier.seconds % daySeconds
  let leap : Int :=
    if b < a ∧ earlier.isLeap then 1 else if a < b ∧ t.isLeap then -1 else 0
  (t.seconds - earlier.seconds + leap) * 1000000000 + ((t.nanos : Int) - earlier.nanos)

end Instant

end MachineActuator
