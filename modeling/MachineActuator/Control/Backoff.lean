import MachineActuator.Time.Instant

/-! # Backoff

Delays between attempts that keep failing.  They are counted in minutes, each the sum of the two
before it up to a limit, and start over once an attempt succeeds.  `BackoffTable` keeps a sequence
of delays and a count of failures for every key.  The count is a word of 32 bits: the failure that
does not fit it starts the count over or, where sums are checked, panics and poisons the lock of the
table. -/

namespace MachineActuator

/-- A sequence of delays, with the last and the next one in minutes. -/
structure Backoff where
  least : Nat
  most : Nat
  previous : Nat := 0
  current : Nat := least
deriving DecidableEq

namespace Backoff

/-- The next delay in seconds. -/
def seconds (b : Backoff) : Nat := b.current * 60

/-- The sequence after its next delay. -/
def advance (b : Backoff) : Backoff :=
  { b with previous := b.current, current := min (b.previous + b.current) b.most }

/-- The sequence from its start. -/
def reset (b : Backoff) : Backoff := { b with previous := 0, current := b.least }

end Backoff

/-- The failures of one object in a row, counted in a word of 32 bits. -/
structure Retries where
  backoff : Backoff := { least := 1, most := 10 }
  errors : UInt32 := 0
deriving DecidableEq

namespace Retries

/-- The state after one more failure.  A full counter starts over from zero. -/
def fail (r : Retries) : Retries := { backoff := r.backoff.advance, errors := r.errors + 1 }

def succeed (r : Retries) : Retries := { backoff := r.backoff.reset, errors := 0 }

/-- Whether one more failure does not fit the counter. -/
def isFull (r : Retries) : Bool := r.errors.toNat + 1 = UInt32.size

end Retries

/-- The failures of every object, by its key, behind a lock. -/
structure BackoffTable where
  entries : String → Retries
  /-- Whether a holder of the lock has panicked, which bars the entries for good. -/
  poisoned : Bool := false

namespace BackoffTable

/-- The table before any failure. -/
def fresh : BackoffTable where
  entries _ := {}

/-- The table with one entry changed. -/
def modify (t : BackoffTable) (key : String) (f : Retries → Retries) : BackoffTable :=
  { t with entries := fun k => if k = key then f (t.entries k) else t.entries k }

/-- Counts a failure: the delay before the next attempt, and the number of failures in a row.  A
poisoned table counts nothing and has one delay for everything. -/
def next (t : BackoffTable) (key : String) : Duration × Nat × BackoffTable :=
  if t.poisoned then (.ofSeconds 60, 0, t)
  else
    (.ofSeconds (t.entries key).backoff.seconds, (t.entries key).fail.errors.toNat,
      t.modify key Retries.fail)

/-- Counts a success. -/
def reset (t : BackoffTable) (key : String) : BackoffTable :=
  if t.poisoned then t else t.modify key Retries.succeed

/-- Whether counting a failure panics where sums are checked for overflow. -/
def panicsAt (t : BackoffTable) (key : String) : Bool := !t.poisoned && (t.entries key).isFull

/-- The table that a panic leaves. -/
def poison (t : BackoffTable) : BackoffTable := { t with poisoned := true }

variable {t : BackoffTable}

theorem next_of_poisoned (h : t.poisoned = true) (key : String) :
    t.next key = (.ofSeconds 60, 0, t) := if_pos h

theorem next_of_unpoisoned (h : t.poisoned = false) (key : String) :
    t.next key =
      (.ofSeconds (t.entries key).backoff.seconds, (t.entries key).fail.errors.toNat,
        t.modify key Retries.fail) :=
  if_neg (Bool.not_eq_true _ ▸ h)

theorem panicsAt_of_poisoned {key : String} (h : t.poisoned = true) : t.panicsAt key = false := by
  simp [panicsAt, h]

@[simp] theorem modify_poisoned (t : BackoffTable) (key : String) (f : Retries → Retries) :
    (t.modify key f).poisoned = t.poisoned := rfl

@[simp] theorem modify_same (t : BackoffTable) (key : String) (f : Retries → Retries) :
    (t.modify key f).entries key = f (t.entries key) := by simp [modify]

theorem modify_of_ne (t : BackoffTable) {key k : String} (f : Retries → Retries) (h : k ≠ key) :
    (t.modify key f).entries k = t.entries k := by simp [modify, h]

end BackoffTable

end MachineActuator
