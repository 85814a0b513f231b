import Mathlib
import MachineActuator.Proofs.Time.Rfc3339

/-! # Time that has passed

Instants are ordered by their seconds, and within one by their nanoseconds, so that a leap second
comes after the second that it follows.  The time since an instant counts leap seconds only between
two times of day, and so does not always grow with the clock: over midnight, and after a reading
within a leap second, it may fall back by up to a second.  Clocks do not read leap seconds, and an
instant in one is the last of a minute, so that twenty seconds once passed stay passed
(`Instant.passed_of_le`). -/

namespace MachineActuator.Instant

instance : LE Instant where
  le t u := t.seconds < u.seconds ∨ t.seconds = u.seconds ∧ t.nanos ≤ u.nanos

theorem le_def {t u : Instant} :
    t ≤ u ↔ t.seconds < u.seconds ∨ t.seconds = u.seconds ∧ t.nanos ≤ u.nanos := Iff.rfl

instance (t u : Instant) : Decidable (t ≤ u) :=
  inferInstanceAs (Decidable (t.seconds < u.seconds ∨ t.seconds = u.seconds ∧ t.nanos ≤ u.nanos))

variable {t t' u : Instant}

/-- A leap second adds at most a second to the time, or takes it away. -/
theorem since_bounds (t u : Instant) :
    (t.seconds - u.seconds - 1) * 1000000000 + (t.nanos - u.nanos) ≤ t.since u ∧
      t.since u ≤ (t.seconds - u.seconds + 1) * 1000000000 + (t.nanos - u.nanos) := by
  unfold since
  dsimp only
  split_ifs <;> omega

/-- Within half a minute the time grows with the clock.  A leap second is the last one of a minute,
so that no midnight lies between it and an instant of another minute. -/
theorem since_le_since (hu : u.Valid) (ht : t.isLeap = false) (ht' : t'.Valid) (hle : t ≤ t')
    (hafter : u.seconds ≤ t.seconds) (hnear : t'.seconds < u.seconds + 30) :
    t.since u ≤ t'.since u := by
  have hlast := hu.leap_last
  have hlast' := ht'.leap_last
  rw [le_def] at hle
  unfold since daySeconds
  simp only [isLeap, decide_eq_true_eq, decide_eq_false_iff_not, not_le] at ht hlast hlast' ⊢
  split_ifs <;> omega

/-- Once twenty seconds have passed, they have passed at every later time. -/
theorem passed_of_le (hu : u.Valid) (ht : t.isLeap = false) (ht' : t'.Valid) (hle : t ≤ t')
    (h : 20000000000 < t.since u) : 20000000000 < t'.since u := by
  have hnanos : u.nanos < 2000000000 := hu.nanos_lt
  have hnotLeap : t.nanos < 1000000000 := by simpa [isLeap] using ht
  obtain hfar | hnear := le_or_gt (u.seconds + 30) t'.seconds
  · have hbound := (since_bounds t' u).1
    omega
  · have hbound := (since_bounds t u).2
    have hafter : u.seconds ≤ t.seconds := by omega
    exact h.trans_le (since_le_since hu ht ht' hle hafter hnear)

/-- A reading within a leap second would be more than twenty seconds after an instant from which the
next second is just twenty. -/
example : (⟨59, 1500000000⟩ : Instant) ≤ ⟨60, 0⟩ ∧
    20000000000 < (⟨59, 1500000000⟩ : Instant).since ⟨40, 0⟩ ∧
    ¬ 20000000000 < (⟨60, 0⟩ : Instant).since ⟨40, 0⟩ := by decide

end MachineActuator.Instant
