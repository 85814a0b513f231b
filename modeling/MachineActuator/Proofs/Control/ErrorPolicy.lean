import Mathlib
import MachineActuator.Control.Reconcile
import MachineActuator.Proofs.Machine.Scope

/-! # The root of an error decides

An error is a root with layers around it: steps of operations and the handling of finalizers.  Both
questions that are asked of an error, for a fixed delay and for a mistake in the configuration, pass
through every layer (`ControllerError.requeueDelay?_wrapped`, `isInvalidConfig_wrapped`), so what
follows a failed reconciliation is decided by the root alone (`Machine.error_root_decides`). -/

namespace MachineActuator

namespace ControllerError

/-- What an error can be wrapped in. -/
inductive Layer where
  | step (machine : String) (action : MachineAction) (what : String)
  | applying
  | cleaningUp
deriving DecidableEq

/-- The error with a layer around it. -/
def Layer.wrap : Layer → ControllerError → ControllerError
  | step machine action what, e => .step machine action what e
  | applying, e => .applyFailed e
  | cleaningUp, e => .cleanupFailed e

/-- The error with layers around it, the outermost one first. -/
def wrapped (layers : List Layer) (root : ControllerError) : ControllerError :=
  layers.foldr Layer.wrap root

/-- The error is not a layer around another one. -/
def IsRoot : ControllerError → Prop
  | step .. | applyFailed _ | cleanupFailed _ => False
  | _ => True

/-- The error asks to be looked at again after a fixed time. -/
def IsRequeue (e : ControllerError) : Prop := ∃ machine delay, e = .requeueAfter machine delay

/-- The error is a mistake in the configuration, of the machine or of a client. -/
def IsMistake (e : ControllerError) : Prop :=
  (∃ text, e = .invalidConfig text) ∨ ∃ text, e = .client (.invalidConfig text)

theorem exists_eq_wrapped (e : ControllerError) :
    ∃ layers root, IsRoot root ∧ e = wrapped layers root := by
  induction e with
  | step machine action what source ih =>
    obtain ⟨layers, root, hroot, rfl⟩ := ih
    exact ⟨.step machine action what :: layers, root, hroot, rfl⟩
  | applyFailed source ih =>
    obtain ⟨layers, root, hroot, rfl⟩ := ih
    exact ⟨.applying :: layers, root, hroot, rfl⟩
  | cleanupFailed source ih =>
    obtain ⟨layers, root, hroot, rfl⟩ := ih
    exact ⟨.cleaningUp :: layers, root, hroot, rfl⟩
  | _ =>
    refine ⟨[], _, ?_, rfl⟩
    trivial

/-! ### Through the layers -/

variable {root : ControllerError}

@[simp] theorem requeueDelay?_wrap (layer : Layer) (e : ControllerError) :
    (layer.wrap e).requeueDelay? = e.requeueDelay? := by
  cases layer <;> rfl

@[simp] theorem isInvalidConfig_wrap (layer : Layer) (e : ControllerError) :
    (layer.wrap e).isInvalidConfig = e.isInvalidConfig := by
  cases layer <;> rfl

theorem requeueDelay?_wrapped (layers : List Layer) (root : ControllerError) :
    (wrapped layers root).requeueDelay? = root.requeueDelay? := by
  induction layers with
  | nil => rfl
  | cons layer rest ih => exact (requeueDelay?_wrap layer _).trans ih

theorem isInvalidConfig_wrapped (layers : List Layer) (root : ControllerError) :
    (wrapped layers root).isInvalidConfig = root.isInvalidConfig := by
  induction layers with
  | nil => rfl
  | cons layer rest ih => exact (isInvalidConfig_wrap layer _).trans ih

/-! ### Roots -/

theorem requeueDelay?_of_not_isRequeue (hroot : root.IsRoot) (h : ¬ root.IsRequeue) :
    root.requeueDelay? = none := by
  cases root with
  | requeueAfter machine delay => exact absurd ⟨machine, delay, rfl⟩ h
  | step machine action what source => exact hroot.elim
  | applyFailed source => exact hroot.elim
  | cleanupFailed source => exact hroot.elim
  | _ => rfl

theorem isInvalidConfig_iff (hroot : root.IsRoot) :
    root.isInvalidConfig = true ↔ root.IsMistake := by
  constructor
  · intro h
    unfold isInvalidConfig at h
    split at h
    · exact .inl ⟨_, rfl⟩
    · exact .inr ⟨_, rfl⟩
    · exact hroot.elim
    · exact hroot.elim
    · exact hroot.elim
    · cases h
  · rintro (⟨text, rfl⟩ | ⟨text, rfl⟩)
    · rfl
    · rfl

end ControllerError

open ControllerError (Layer wrapped)

/-! ### Counting in 32 bits -/

theorem Retries.toNat_errors_fail (r : Retries) :
    r.fail.errors.toNat = (r.errors.toNat + 1) % 2 ^ 32 := UInt32.toNat_add r.errors 1

theorem BackoffTable.panicsAt_iff {t : BackoffTable} {key : String} :
    t.panicsAt key = true ↔
      t.poisoned = false ∧ (t.entries key).errors.toNat + 1 = 2 ^ 32 := by
  simp [panicsAt, Retries.isFull, UInt32.size]

/-! ### The policy -/

namespace Machine

variable {m : Machine} {t : BackoffTable} {e : ControllerError}

theorem errorPolicy_of_delay {delay : Duration} (h : e.requeueDelay? = some delay) :
    (m.errorPolicy t e).1 = .requeue delay ∧ (m.errorPolicy t e).2.2 = t := by
  unfold errorPolicy
  rw [h]
  exact ⟨rfl, rfl⟩

theorem errorPolicy_of_none (h : e.requeueDelay? = none) :
    (m.errorPolicy t e).1 = .requeue (t.next m.key).1 ∧
      (m.errorPolicy t e).2.2 = (t.next m.key).2.2 := by
  unfold errorPolicy
  rw [h]
  exact ⟨rfl, rfl⟩

theorem errorPolicyChecked_of_panicsAt (h : e.requeueDelay? = none)
    (hpanics : t.panicsAt m.key = true) : m.errorPolicyChecked t e = (none, t.poison) := by
  unfold errorPolicyChecked
  rw [h, hpanics]
  rfl

/-- Where nothing overflows, checking sums makes no difference. -/
theorem errorPolicyChecked_eq (h : e.requeueDelay? = none → t.panicsAt m.key = false) :
    m.errorPolicyChecked t e =
      (some ((m.errorPolicy t e).1, (m.errorPolicy t e).2.1), (m.errorPolicy t e).2.2) := by
  have hfits : ¬ ((e.requeueDelay?.isNone && t.panicsAt m.key) = true) := by
    rw [Bool.and_eq_true, Option.isNone_iff_eq_none]
    rintro ⟨hnone, hpanics⟩
    rw [h hnone] at hpanics
    cases hpanics
  unfold errorPolicyChecked
  rw [if_neg hfits]

/-- What follows an error is decided by its root, whatever layers are around it.  A root with a
fixed delay is looked at again after that delay, and the table stays as it is.  With any other root
the machine waits for its next delay, whether the root is a mistake in the configuration or not, and
its entry, and no other, moves on by one delay and one error, counted in 32 bits.  A poisoned table
has one delay and never changes.  Checking sums makes a difference for a full counter only. -/
theorem error_root_decides (layers : List Layer) (root : ControllerError) (hroot : root.IsRoot)
    (m : Machine) (t : BackoffTable) :
    let e := wrapped layers root
    let entry := t.entries m.key
    let followUp := (m.errorPolicy t e).1
    let after := (m.errorPolicy t e).2.2
    (∀ machine delay, root = .requeueAfter machine delay →
      e.requeueDelay? = some delay ∧ followUp = .requeue delay ∧ after = t) ∧
    (¬ root.IsRequeue → t.poisoned = false →
      e.requeueDelay? = none ∧ followUp = .requeue (.ofSeconds entry.backoff.seconds) ∧
      after.poisoned = false ∧
      (after.entries m.key).backoff = entry.backoff.advance ∧
      (after.entries m.key).errors.toNat = (entry.errors.toNat + 1) % 2 ^ 32 ∧
      ∀ key, key ≠ m.key → after.entries key = t.entries key) ∧
    (¬ root.IsRequeue → t.poisoned = true →
      e.requeueDelay? = none ∧ followUp = .requeue (.ofSeconds 60) ∧ after = t) ∧
    (e.isInvalidConfig = true ↔ root.IsMistake) ∧
    ¬ (e.isInvalidConfig = true ∧ e.requeueDelay?.isSome) ∧
    (¬ root.IsRequeue → t.poisoned = false → entry.errors.toNat + 1 = 2 ^ 32 →
      m.errorPolicyChecked t e = (none, t.poison)) ∧
    (root.IsRequeue ∨ t.poisoned = true ∨ entry.errors.toNat + 1 < 2 ^ 32 →
      m.errorPolicyChecked t e = (some (followUp, (m.errorPolicy t e).2.1), after)) := by
  intro e entry followUp after
  have hdelay : e.requeueDelay? = root.requeueDelay? :=
    ControllerError.requeueDelay?_wrapped layers root
  have hnone (hplain : ¬ root.IsRequeue) : e.requeueDelay? = none :=
    hdelay.trans (ControllerError.requeueDelay?_of_not_isRequeue hroot hplain)
  have hmistake : e.isInvalidConfig = true ↔ root.IsMistake := by
    rw [ControllerError.isInvalidConfig_wrapped]
    exact ControllerError.isInvalidConfig_iff hroot
  refine ⟨?_, fun hplain hsound => ?_, fun hplain hpoisoned => ?_, hmistake, ?_,
    fun hplain hsound hfull => ?_, fun hfits => errorPolicyChecked_eq fun h => ?_⟩
  · rintro machine delay rfl
    exact ⟨hdelay, errorPolicy_of_delay hdelay⟩
  · obtain ⟨hfollowUp, hafter⟩ := errorPolicy_of_none (m := m) (t := t) (hnone hplain)
    rw [BackoffTable.next_of_unpoisoned hsound] at hfollowUp hafter
    have hentry : after.entries m.key = entry.fail :=
      (congrArg (·.entries m.key) hafter).trans (BackoffTable.modify_same t m.key Retries.fail)
    refine ⟨hnone hplain, hfollowUp, ?_, congrArg Retries.backoff hentry, ?_, fun key hkey => ?_⟩
    · exact (congrArg BackoffTable.poisoned hafter).trans hsound
    · exact (congrArg (·.errors.toNat) hentry).trans (Retries.toNat_errors_fail entry)
    · exact (congrArg (·.entries key) hafter).trans (BackoffTable.modify_of_ne t Retries.fail hkey)
  · obtain ⟨hfollowUp, hafter⟩ := errorPolicy_of_none (m := m) (t := t) (hnone hplain)
    rw [BackoffTable.next_of_poisoned hpoisoned] at hfollowUp hafter
    exact ⟨hnone hplain, hfollowUp, hafter⟩
  · rintro ⟨hinvalid, hsome⟩
    rw [hdelay] at hsome
    obtain ⟨text, rfl⟩ | ⟨text, rfl⟩ := hmistake.mp hinvalid
    · cases hsome
    · cases hsome
  · exact errorPolicyChecked_of_panicsAt (hnone hplain)
      (BackoffTable.panicsAt_iff.mpr ⟨hsound, hfull⟩)
  · rw [Bool.eq_false_iff, ne_eq, BackoffTable.panicsAt_iff]
    rintro ⟨hsound, hfull⟩
    obtain ⟨machine, delay, rfl⟩ | hpoisoned | hsmall := hfits
    · rw [hdelay] at h
      cases h
    · rw [hsound] at hpoisoned
      cases hpoisoned
    · exact absurd hfull (Nat.ne_of_lt hsmall)

/-- A missing virtual machine and a mistake in the configuration, each in the layers in which the
controller meets them. -/
theorem error_root_decides_worker :
    let layers := [.applying, .step "worker" .update "failed to build Virtual Machine struct"]
    let missing := Machine.worker.errorPolicy .fresh
      (wrapped layers (.requeueAfter "worker" (.ofSeconds 20)))
    let mistaken := Machine.worker.errorPolicy .fresh
      (wrapped layers (.invalidConfig "worker: missing value for NetworkName"))
    missing.1 = .requeue (.ofSeconds 20) ∧ missing.2.2 = .fresh ∧
      mistaken.1 = .requeue (.ofSeconds 60) ∧
      (mistaken.2.2.entries Machine.worker.key).errors.toNat = 1 := by
  intro layers missing mistaken
  have hplain : ¬ (ControllerError.invalidConfig
      "worker: missing value for NetworkName").IsRequeue := by
    rintro ⟨machine, delay, h⟩
    cases h
  obtain ⟨-, hmissing, hkept⟩ := (error_root_decides layers
    (.requeueAfter "worker" (.ofSeconds 20)) trivial .worker .fresh).1 _ _ rfl
  obtain ⟨-, hmistaken, -, -, hcounted, -⟩ := (error_root_decides layers
    (.invalidConfig "worker: missing value for NetworkName") trivial .worker .fresh).2.1 hplain rfl
  exact ⟨hmissing, hkept, hmistaken, hcounted⟩

/-- A table with two minutes as the next delay of every machine, and every counter full. -/
def fullTable : BackoffTable where
  entries _ :=
    { backoff := { least := 1, most := 10, previous := 1, current := 2 }, errors := 4294967295 }

/-- An error after as many as fit the counter leaves none counted, or panics where sums are checked,
and from then on the delay is one minute.  A slash can hide where a namespace ends, so that an error
of one machine counts for another. -/
theorem error_policy_overflows :
    let e := .watch "stopped"
    let inner := { Machine.worker with metadata := { ns := some "a", name := some "b/c" } }
    let outer := { Machine.worker with metadata := { ns := some "a/b", name := some "c" } }
    (fullTable.entries Machine.worker.key).errors.toNat + 1 = 2 ^ 32 ∧
      ((Machine.worker.errorPolicy fullTable e).2.2.entries Machine.worker.key).errors = 0 ∧
      Machine.worker.errorPolicyChecked fullTable e = (none, fullTable.poison) ∧
      (Machine.worker.errorPolicy fullTable.poison e).1 = .requeue (.ofSeconds 60) ∧
      inner.metadata.ns ≠ outer.metadata.ns ∧
      ((inner.errorPolicy .fresh e).2.2.entries outer.key).errors = 1 := by
  refine ⟨rfl, by decide, rfl, by decide, by decide, by decide⟩

end Machine

end MachineActuator
