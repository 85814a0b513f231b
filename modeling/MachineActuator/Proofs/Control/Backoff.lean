import Mathlib
import MachineActuator.Control.Schedule
import MachineActuator.Proofs.Control.ErrorPolicy
import MachineActuator.Proofs.Machine.Scope

/-! # Delays over whole runs

The delays of a sequence are the multiples of its least one by the Fibonacci numbers, up to the most
(`Backoff.advance_after`).  The table keeps one sequence for every key, and all along a run the
entry of a machine tells how often it has failed since it last succeeded
(`BackoffTable.recordAll_key`), whatever became of other machines in between and however often the
machine asked to be looked at again after a fixed time.  The delay after a failure is read off this
number (`BackoffTable.delay_of_failure`).  The number is counted in 32 bits, and as long as it fits
them it makes no difference whether sums are checked (`BackoffTable.recordAllChecked_eq`). -/

namespace MachineActuator

/-! ### Sequences of delays -/

namespace Backoff

/-- The sequence after `n` delays. -/
def after (least most n : Nat) : Backoff where
  least := least
  most := most
  previous := min (least * Nat.fib n) most
  current := min (least * Nat.fib (n + 1)) most

theorem after_zero {least most : Nat} (h : least ≤ most) :
    after least most 0 = { least, most } := by
  unfold after
  rw [Nat.fib_zero, Nat.zero_add, Nat.fib_one, Nat.mul_one, Nat.mul_zero, Nat.zero_min,
    Nat.min_eq_left h]

/-- A sum of delays that passes the limit is cut off, be the delays themselves cut off or not. -/
theorem advance_after (least most n : Nat) :
    (after least most n).advance = after least most (n + 1) := by
  have hfib : least * Nat.fib (n + 2) = least * Nat.fib n + least * Nat.fib (n + 1) := by
    rw [Nat.fib_add_two, Nat.mul_add]
  unfold advance after
  rw [Backoff.mk.injEq]
  refine ⟨rfl, rfl, rfl, ?_⟩
  dsimp only
  rw [hfib]
  omega

theorem reset_after {least most : Nat} (h : least ≤ most) (n : Nat) :
    (after least most n).reset = after least most 0 := by
  rw [after_zero h]
  rfl

end Backoff

namespace Retries

/-- The state after `n` failures. -/
def after (n : Nat) : Retries where
  backoff := .after 1 10 n
  errors := .ofNat n

theorem after_zero : after 0 = {} := by
  unfold after
  rw [Backoff.after_zero (by decide)]
  rfl

theorem fail_after (n : Nat) : (after n).fail = after (n + 1) := by
  unfold fail after
  rw [Backoff.advance_after, UInt32.ofNat_add, UInt32.ofNat_one]

theorem toNat_errors_after (n : Nat) : (after n).errors.toNat = n % 2 ^ 32 := UInt32.toNat_ofNat'

theorem succeed_after (n : Nat) : (after n).succeed = after 0 := by
  unfold succeed after
  rw [Backoff.reset_after (by decide)]
  rfl

end Retries

/-! ### Attempts -/

/-- An attempt to reconcile a machine, as far as delays are concerned. -/
inductive Attempt where
  | succeeded (m : Machine)
  | failed (m : Machine) (e : ControllerError)

namespace Attempt

/-- The machine that was to be reconciled. -/
def machine : Attempt → Machine
  | succeeded m => m
  | failed m _ => m

def isSuccess : Attempt → Bool
  | succeeded _ => true
  | failed .. => false

/-- Whether the attempt was a failure without a fixed delay. -/
def counts : Attempt → Bool
  | succeeded _ => false
  | failed _ e => e.requeueDelay?.isNone

/-- Whether the attempt was for this machine, by namespace and name. -/
def concerns (m : Machine) (a : Attempt) : Bool :=
  a.machine.metadata.ns.getD "" = m.metadata.ns.getD "" &&
    a.machine.metadata.displayName = m.metadata.displayName

/-- The attempt that a reconciliation of a machine was. -/
def ofResult (m : Machine) : Except ControllerError FollowUp → Attempt
  | .ok _ => succeeded m
  | .error e => failed m e

end Attempt

/-- How often a machine has failed without a fixed delay since it last succeeded. -/
def failuresInARow (m : Machine) (attempts : List Attempt) : Nat :=
  (attempts.reverse.takeWhile fun a => !(a.concerns m && a.isSuccess)).countP fun a =>
    a.concerns m && a.counts

/-- A success starts over, a failure without a fixed delay counts, and anything else counts for
nothing. -/
theorem failuresInARow_append (m : Machine) (attempts : List Attempt) (a : Attempt) :
    failuresInARow m (attempts ++ [a]) =
      if a.concerns m && a.isSuccess then 0
      else failuresInARow m attempts + if a.concerns m && a.counts then 1 else 0 := by
  unfold failuresInARow
  rw [List.reverse_append, List.reverse_singleton, List.singleton_append, List.takeWhile_cons]
  cases hsuccess : a.concerns m && a.isSuccess with
  | true => rfl
  | false => exact List.countP_cons

theorem failuresInARow_le (m : Machine) (attempts : List Attempt) :
    failuresInARow m attempts ≤ attempts.length := by
  calc
    failuresInARow m attempts
      ≤ (attempts.reverse.takeWhile fun a => !(a.concerns m && a.isSuccess)).length :=
        List.countP_le_length
    _ ≤ attempts.reverse.length := (List.takeWhile_sublist _).length_le
    _ = attempts.length := List.length_reverse

theorem failuresInARow_replicate {m : Machine} {a : Attempt} (hconcerns : a.concerns m = true)
    (hcounts : a.counts = true) (hfailed : a.isSuccess = false) (k : Nat) :
    failuresInARow m (List.replicate k a) = k := by
  induction k with
  | zero => rfl
  | succ k ih =>
    rw [List.replicate_succ', failuresInARow_append, ih, hconcerns, hcounts, hfailed]
    rfl

/-- No machine ever fails as often in a row as no longer fits its counter. -/
def FitsCounter (attempts : List Attempt) : Prop :=
  ∀ m earlier, earlier <+: attempts → failuresInARow m earlier < 2 ^ 32

theorem FitsCounter.of_length_lt {attempts : List Attempt} (h : attempts.length < 2 ^ 32) :
    FitsCounter attempts := fun m earlier hpart =>
  (failuresInARow_le m earlier).trans_lt (hpart.length_le.trans_lt h)

/-! ### Keys -/

/-- A namespace without a slash can be told from the name behind it. -/
theorem Machine.key_eq_iff {m r : Machine} (hm : '/' ∉ (m.metadata.ns.getD "").toList)
    (hr : '/' ∉ (r.metadata.ns.getD "").toList) :
    r.key = m.key ↔ r.metadata.ns.getD "" = m.metadata.ns.getD "" ∧
      r.metadata.displayName = m.metadata.displayName := by
  have hlist (x : Machine) : x.key.toList =
      (x.metadata.ns.getD "").toList ++ '/' :: x.metadata.displayName.toList := by
    simp [key]
  have hfront {x : Machine} (hx : '/' ∉ (x.metadata.ns.getD "").toList) :
      x.key.toList.takeWhile (· ≠ '/') = (x.metadata.ns.getD "").toList := by
    have hall : ∀ c ∈ (x.metadata.ns.getD "").toList, decide (c ≠ '/') = true := by
      intro c hc
      exact decide_eq_true fun h => hx (h ▸ hc)
    rw [hlist, List.takeWhile_append_of_pos hall]
    simp
  constructor
  · intro h
    have hns : r.metadata.ns.getD "" = m.metadata.ns.getD "" := by
      rw [← String.toList_inj, ← hfront hr, ← hfront hm, h]
    have hrest := congrArg String.toList h
    rw [hlist, hlist, hns] at hrest
    exact ⟨hns, String.toList_inj.mp (List.cons.inj (List.append_cancel_left hrest)).2⟩
  · rintro ⟨hns, hname⟩
    unfold key
    rw [hns, hname]

/-! ### Runs -/

namespace BackoffTable

/-- The table after an attempt. -/
def record (t : BackoffTable) : Attempt → BackoffTable
  | .succeeded m => t.reset m.key
  | .failed m e => (m.errorPolicy t e).2.2

/-- The table after an attempt where sums are checked. -/
def recordChecked (t : BackoffTable) : Attempt → BackoffTable
  | .succeeded m => t.reset m.key
  | .failed m e => (m.errorPolicyChecked t e).2

/-- The table after a run of attempts. -/
def recordAll (attempts : List Attempt) : BackoffTable := attempts.foldl record fresh

/-- The table after a run of attempts where sums are checked. -/
def recordAllChecked (attempts : List Attempt) : BackoffTable := attempts.foldl recordChecked fresh

variable {t : BackoffTable} {m : Machine} {a : Attempt}

theorem recordAll_append (attempts : List Attempt) (a : Attempt) :
    recordAll (attempts ++ [a]) = (recordAll attempts).record a :=
  List.foldl_append

theorem recordAllChecked_append (attempts : List Attempt) (a : Attempt) :
    recordAllChecked (attempts ++ [a]) = (recordAllChecked attempts).recordChecked a :=
  List.foldl_append

theorem record_succeeded (hsound : t.poisoned = false) (m : Machine) :
    t.record (.succeeded m) = t.modify m.key Retries.succeed := by
  unfold record reset
  rw [hsound]
  rfl

/-- A failure is counted under the key of its machine, unless it carries a fixed delay. -/
theorem record_failed (hsound : t.poisoned = false) (m : Machine) (e : ControllerError) :
    t.record (.failed m e) =
      if e.requeueDelay?.isNone then t.modify m.key Retries.fail else t := by
  unfold record
  cases h : e.requeueDelay? with
  | none =>
    have hafter := (Machine.errorPolicy_of_none (m := m) (t := t) h).2
    rw [next_of_unpoisoned hsound] at hafter
    exact hafter
  | some delay => exact (Machine.errorPolicy_of_delay h).2

theorem record_poisoned (hsound : t.poisoned = false) : (t.record a).poisoned = false := by
  cases a with
  | succeeded r => rw [record_succeeded hsound, modify_poisoned, hsound]
  | failed r e =>
    rw [record_failed hsound]
    split_ifs
    · exact hsound
    · exact hsound

/-- An attempt leaves the entries of all other machines alone. -/
theorem record_of_ne (hsound : t.poisoned = false) (h : m.key ≠ a.machine.key) :
    (t.record a).entries m.key = t.entries m.key := by
  cases a with
  | succeeded r =>
    rw [record_succeeded hsound]
    exact modify_of_ne t _ h
  | failed r e =>
    rw [record_failed hsound]
    split_ifs
    · exact modify_of_ne t _ h
    · rfl

/-- What an attempt does to the entry of its own machine. -/
theorem record_same {n : Nat} (hsound : t.poisoned = false) (h : a.machine.key = m.key)
    (ht : t.entries m.key = Retries.after n) :
    (t.record a).entries m.key =
      if a.isSuccess then Retries.after 0
      else Retries.after (n + if a.counts then 1 else 0) := by
  rw [← h] at ht ⊢
  cases a with
  | succeeded r =>
    rw [if_pos (show (Attempt.succeeded r).isSuccess = true from rfl), ← Retries.succeed_after n,
      ← ht, record_succeeded hsound]
    exact modify_same t _ _
  | failed r e =>
    rw [if_neg (show ¬ (Attempt.failed r e).isSuccess = true from Bool.false_ne_true),
      record_failed hsound]
    unfold Attempt.counts
    dsimp only
    split_ifs
    · rw [← Retries.fail_after, ← ht]
      exact modify_same t _ _
    · exact ht

theorem recordAll_poisoned (attempts : List Attempt) : (recordAll attempts).poisoned = false := by
  induction attempts using List.reverseRecOn with
  | nil => rfl
  | append_singleton earlier a ih =>
    rw [recordAll_append]
    exact record_poisoned ih

/-- All along a run the entry of a machine tells how often it has failed since it last succeeded. -/
theorem recordAll_key (hm : '/' ∉ (m.metadata.ns.getD "").toList) (attempts : List Attempt)
    (hall : ∀ a ∈ attempts, '/' ∉ (a.machine.metadata.ns.getD "").toList) :
    (recordAll attempts).entries m.key = Retries.after (failuresInARow m attempts) := by
  induction attempts using List.reverseRecOn with
  | nil => exact Retries.after_zero.symm
  | append_singleton earlier a ih =>
    have hbefore := ih fun b hb => hall b (List.mem_append_left _ hb)
    have ha := hall a (List.mem_append_right _ (List.mem_singleton_self a))
    have hsound := recordAll_poisoned earlier
    rw [recordAll_append, failuresInARow_append]
    have hconcerns : a.concerns m = true ↔ a.machine.key = m.key := by
      rw [Machine.key_eq_iff hm ha]
      simp [Attempt.concerns]
    by_cases hkey : a.machine.key = m.key
    · rw [hconcerns.mpr hkey, Bool.true_and, Bool.true_and, record_same hsound hkey hbefore]
      split_ifs
      · rfl
      · rfl
      · rfl
    · rw [Bool.eq_false_iff.mpr fun h => hkey (hconcerns.mp h),
        record_of_ne hsound (Ne.symm hkey)]
      exact hbefore

/-- Counting one more failure panics, where sums are checked, each time as many have been counted
as fit the counter. -/
theorem panicsAt_recordAll (hm : '/' ∉ (m.metadata.ns.getD "").toList) (attempts : List Attempt)
    (hall : ∀ a ∈ attempts, '/' ∉ (a.machine.metadata.ns.getD "").toList) :
    (recordAll attempts).panicsAt m.key = true ↔
      failuresInARow m attempts % 2 ^ 32 + 1 = 2 ^ 32 := by
  rw [panicsAt_iff, recordAll_key hm attempts hall, Retries.toNat_errors_after]
  exact and_iff_right (recordAll_poisoned attempts)

/-! ### Checked sums -/

theorem recordChecked_eq
    (h : ∀ r e, a = .failed r e → e.requeueDelay? = none → t.panicsAt r.key = false) :
    t.recordChecked a = t.record a := by
  cases a with
  | succeeded r => rfl
  | failed r e => exact congrArg Prod.snd (Machine.errorPolicyChecked_eq (h r e rfl))

/-- As long as all counts fit their counters, checking sums makes no difference to a run. -/
theorem recordAllChecked_eq (attempts : List Attempt)
    (hall : ∀ a ∈ attempts, '/' ∉ (a.machine.metadata.ns.getD "").toList)
    (hfits : FitsCounter attempts) : recordAllChecked attempts = recordAll attempts := by
  induction attempts using List.reverseRecOn with
  | nil => rfl
  | append_singleton earlier a ih =>
    have hearlier := fun b hb => hall b (List.mem_append_left _ hb)
    have hpart : earlier <+: earlier ++ [a] := List.prefix_append earlier [a]
    rw [recordAllChecked_append, recordAll_append,
      ih hearlier fun r before h => hfits r before (h.trans hpart)]
    refine recordChecked_eq ?_
    rintro r e rfl he
    have hr : '/' ∉ (r.metadata.ns.getD "").toList :=
      hall _ (List.mem_append_right _ (List.mem_singleton_self _))
    rw [Bool.eq_false_iff, ne_eq, panicsAt_recordAll hr earlier hearlier]
    have hcount : failuresInARow r (earlier ++ [.failed r e]) = failuresInARow r earlier + 1 := by
      rw [failuresInARow_append]
      simp [Attempt.concerns, Attempt.machine, Attempt.isSuccess, Attempt.counts, he]
    have := hfits r _ List.prefix_rfl
    omega

theorem errorPolicyChecked_of_poisoned {e : ControllerError} (h : t.poisoned = true)
    (he : e.requeueDelay? = none) :
    ∃ line, m.errorPolicyChecked t e = (some (.requeue (.ofSeconds 60), line), t) := by
  obtain ⟨hfollowUp, hafter⟩ := Machine.errorPolicy_of_none (m := m) (t := t) he
  rw [next_of_poisoned h] at hfollowUp hafter
  rw [Machine.errorPolicyChecked_eq fun _ => panicsAt_of_poisoned h, hfollowUp, hafter]
  exact ⟨_, rfl⟩

theorem recordChecked_of_poisoned (h : t.poisoned = true) (a : Attempt) :
    t.recordChecked a = t := by
  cases a with
  | succeeded r => exact if_pos h
  | failed r e =>
    cases he : e.requeueDelay? with
    | none =>
      obtain ⟨line, hline⟩ := errorPolicyChecked_of_poisoned (m := r) h he
      exact congrArg Prod.snd hline
    | some delay =>
      have hchecked := Machine.errorPolicyChecked_eq (m := r) (e := e) fun _ =>
        panicsAt_of_poisoned h
      exact (congrArg Prod.snd hchecked).trans (Machine.errorPolicy_of_delay he).2

theorem foldl_recordChecked_of_poisoned (h : t.poisoned = true) (attempts : List Attempt) :
    attempts.foldl recordChecked t = t :=
  List.foldl_fixed' (recordChecked_of_poisoned h) attempts

/-! ### Delays -/

/-- The delay and the count after a failure, read off the entry of its machine. -/
theorem next_of_entry {n : Nat} (hsound : t.poisoned = false)
    (hentry : t.entries m.key = Retries.after n) :
    (t.next m.key).1 = .ofSeconds (min (Nat.fib (n + 1)) 10 * 60) ∧
      (t.next m.key).2.1 = (n + 1) % 2 ^ 32 := by
  rw [next_of_unpoisoned hsound, hentry, Retries.fail_after]
  refine ⟨?_, Retries.toNat_errors_after (n + 1)⟩
  simp [Retries.after, Backoff.after, Backoff.seconds]

/-- After a run of attempts, the next failure of a machine that carries no fixed delay is the `n`-th
since its last success.  The delay is then the `n`-th Fibonacci number in minutes, at most ten, and
`n` failures are reported, counted in 32 bits.  Where sums are checked it is the same as long as the
counts fit.  The first one that does not ends in a panic, and from then on all failures of all
machines are followed by one minute and reported as none. -/
theorem delay_of_failure (attempts : List Attempt) {e : ControllerError}
    (he : e.requeueDelay? = none) (hm : '/' ∉ (m.metadata.ns.getD "").toList)
    (hall : ∀ a ∈ attempts, '/' ∉ (a.machine.metadata.ns.getD "").toList) :
    let t := recordAll attempts
    let n := failuresInARow m attempts + 1
    let delay := Duration.ofSeconds (min (Nat.fib n) 10 * 60)
    let checked := m.errorPolicyChecked (recordAllChecked attempts) e
    ((m.errorPolicy t e).1 = .requeue delay ∧
      (t.next m.key).1 = delay ∧ (t.next m.key).2.1 = n % 2 ^ 32 ∧
      (e.isInvalidConfig = false → (m.errorPolicy t e).2.1.text =
        m.key ++ ": reconciliation failed (" ++ Nat.repr (n % 2 ^ 32) ++ " consecutive errors), " ++
          ("retrying in " ++ Nat.repr delay.seconds ++ "s: " ++ e.message))) ∧
    (FitsCounter attempts → recordAllChecked attempts = t ∧
      (n < 2 ^ 32 → checked =
        (some ((m.errorPolicy t e).1, (m.errorPolicy t e).2.1), (m.errorPolicy t e).2.2)) ∧
      (n = 2 ^ 32 → checked = (none, t.poison) ∧
        ∀ (later : List Attempt) (r : Machine) (f : ControllerError), f.requeueDelay? = none →
          let stuck := later.foldl recordChecked t.poison
          (stuck.next r.key).2.1 = 0 ∧ ∃ line,
            r.errorPolicyChecked stuck f = (some (.requeue (.ofSeconds 60), line), stuck))) := by
  intro t n delay checked
  have hsound : t.poisoned = false := recordAll_poisoned attempts
  obtain ⟨hdelay, hcount⟩ := next_of_entry hsound (recordAll_key hm attempts hall)
  have hpanics := panicsAt_recordAll hm attempts hall
  refine ⟨⟨?_, hdelay, hcount, fun hvalid => ?_⟩, fun hfits => ?_⟩
  · rw [(Machine.errorPolicy_of_none he).1, hdelay]
  · unfold Machine.errorPolicy
    dsimp only
    rw [he, hvalid, hdelay, hcount]
    rfl
  · have hrun : recordAllChecked attempts = t := recordAllChecked_eq attempts hall hfits
    have hchecked : checked = m.errorPolicyChecked t e :=
      congrArg (m.errorPolicyChecked · e) hrun
    have hn : failuresInARow m attempts < 2 ^ 32 := hfits m attempts List.prefix_rfl
    rw [Nat.mod_eq_of_lt hn] at hpanics
    refine ⟨hrun, fun hsmall => ?_, fun hfull => ⟨?_, fun later r f hf => ?_⟩⟩
    · rw [hchecked]
      refine Machine.errorPolicyChecked_eq fun _ => ?_
      exact Bool.eq_false_iff.mpr fun h => (Nat.ne_of_lt hsmall) (hpanics.mp h)
    · rw [hchecked]
      exact Machine.errorPolicyChecked_of_panicsAt he (hpanics.mpr hfull)
    · intro stuck
      have hstuck : stuck = t.poison := foldl_recordChecked_of_poisoned rfl later
      rw [hstuck, next_of_poisoned rfl]
      exact ⟨rfl, errorPolicyChecked_of_poisoned rfl hf⟩

/-- Attempts for a worker: a success, three failures, then a success of another machine and a
failure with a fixed delay, and three failures more. -/
def workerAttempts : List Attempt :=
  let failures := List.replicate 3 (.failed .worker (.watch "stopped"))
  let other := { Machine.worker with metadata.name := some "other" }
  [.succeeded .worker] ++ failures ++
    [.succeeded other, .failed .worker (.requeueAfter "worker" (.ofSeconds 20))] ++ failures

/-- The next failure of the worker is the seventh, and thirteen minutes are cut off at ten, be sums
checked or not. -/
theorem delay_of_failure_worker :
    failuresInARow .worker workerAttempts + 1 = 7 ∧
      (Machine.worker.errorPolicy (recordAll workerAttempts) (.watch "stopped")).1 =
        .requeue (.ofSeconds 600) ∧
      FitsCounter workerAttempts ∧ recordAllChecked workerAttempts = recordAll workerAttempts := by
  have hall : ∀ a ∈ workerAttempts, '/' ∉ (a.machine.metadata.ns.getD "").toList := by decide
  have hcount : failuresInARow .worker workerAttempts = 6 := by decide
  have hfits : FitsCounter workerAttempts := .of_length_lt (by decide)
  obtain ⟨⟨hdelay, -⟩, hchecked⟩ := delay_of_failure (m := .worker) (e := .watch "stopped")
    workerAttempts rfl (by decide) hall
  rw [hcount] at hdelay ⊢
  exact ⟨rfl, hdelay, hfits, (hchecked hfits).1⟩

/-- A machine whose name is yet to be generated from the name of the worker. -/
def unnamed : Machine :=
  { Machine.worker with
    metadata := { Machine.worker.metadata with name := none, generateName := some "worker" } }

/-- The failure that does not fit the counter is reported as none, or panics where sums are checked.
A machine without a name shares its failures with the machine that bears the name it would be
given. -/
theorem failures_outgrow_counter :
    let e := .watch "stopped"
    let attempts := List.replicate (2 ^ 32 - 1) (.failed .worker e)
    failuresInARow .worker attempts + 1 = 2 ^ 32 ∧
      ((recordAll attempts).next Machine.worker.key).2.1 = 0 ∧
      (Machine.worker.errorPolicyChecked (recordAllChecked attempts) e).1 = none ∧
      (Machine.worker.errorPolicy (recordAll (List.replicate 2 (.failed unnamed e))) e).1 =
        .requeue (.ofSeconds 120) := by
  intro e attempts
  have hworker : '/' ∉ (Machine.worker.metadata.ns.getD "").toList := by decide
  have hcount : failuresInARow .worker attempts = 2 ^ 32 - 1 :=
    failuresInARow_replicate rfl rfl rfl _
  have hall : ∀ a ∈ attempts, '/' ∉ (a.machine.metadata.ns.getD "").toList := by
    intro a ha
    rw [List.eq_of_mem_replicate ha]
    exact hworker
  have hfits : FitsCounter attempts :=
    .of_length_lt (List.length_replicate.trans_lt (Nat.sub_lt (by decide) (by decide)))
  have hentry := recordAll_key hworker attempts hall
  have hpanics := panicsAt_recordAll hworker attempts hall
  rw [hcount] at hentry hpanics ⊢
  refine ⟨by decide, (next_of_entry (recordAll_poisoned attempts) hentry).2, ?_, by decide⟩
  rw [recordAllChecked_eq attempts hall hfits,
    Machine.errorPolicyChecked_of_panicsAt rfl (hpanics.mpr (by decide))]

end BackoffTable

/-- A turn of the controller records its attempt, and follows the error policy if it has failed. -/
theorem Schedule.backoff_machineTurn (settings : Settings) (route : Route) (m : Machine)
    (s : State) :
    let (result, followUp, after) := machineTurn settings route m s
    after.backoff = s.backoff.record (.ofResult m result) ∧
      ∀ e, result = .error e → followUp = (m.errorPolicy s.backoff e).1 := by
  unfold machineTurn
  cases s.env.run route (m.reconcile settings) with
  | mk result env =>
    cases result with
    | ok followUp => exact ⟨rfl, fun e he => by simp at he⟩
    | error e =>
      refine ⟨rfl, fun e' he' => ?_⟩
      obtain rfl := Except.error.inj he'
      rfl

end MachineActuator
