import Mathlib
import MachineActuator.Proofs.Control.Backoff

/-! # Delays that a sequence gives

Between two resets a sequence gives the multiples of its least delay by the Fibonacci numbers, cut
off at the most (`Backoff.answered_eq`).  The numbers it counts with are cut off as well, and never
pass twice the most, so they fit into 64 bits when that does.  How the delays lie to each other and
what a reset comes to is read off the closed form (`Backoff.delays_closed_form`). -/

namespace MachineActuator.Backoff

/-! ### Requests -/

/-- What can be asked of a sequence. -/
inductive Request where
  | next
  | reset
deriving DecidableEq

/-- A sequence, with the delays in seconds that it has given since it was last reset. -/
structure Answered where
  given : List ℕ := []
  sequence : Backoff

namespace Answered

/-- What there is after one more request. -/
def ask (a : Answered) : Request → Answered
  | .next => { given := a.given ++ [a.sequence.seconds], sequence := a.sequence.advance }
  | .reset => { sequence := a.sequence.reset }

end Answered

/-- What there is after all these requests to a new sequence. -/
def answered (least most : ℕ) (requests : List Request) : Answered :=
  requests.foldl Answered.ask { sequence := { least, most } }

/-- How many delays were asked for since the last reset. -/
def sinceReset (requests : List Request) : ℕ := (requests.rtakeWhile (· = .next)).length

theorem answered_append (least most : ℕ) (requests : List Request) (last : Request) :
    answered least most (requests ++ [last]) = (answered least most requests).ask last := by
  simp [answered]

theorem sinceReset_next (requests : List Request) :
    sinceReset (requests ++ [.next]) = sinceReset requests + 1 := by
  simp [sinceReset]

theorem sinceReset_reset (requests : List Request) : sinceReset (requests ++ [.reset]) = 0 := by
  simp [sinceReset]

/-! ### The closed form -/

variable {least most : ℕ}

/-- The `n`-th delay in seconds. -/
def delay (least most n : ℕ) : ℕ := 60 * min (least * Nat.fib n) most

theorem seconds_after (least most n : ℕ) :
    (after least most n).seconds = delay least most (n + 1) := Nat.mul_comm _ _

/-- Whatever was asked, the sequence is as it is after the delays since the last reset, and these
are the first ones. -/
theorem answered_eq (h : least ≤ most) (requests : List Request) :
    answered least most requests =
      { given := (List.range' 1 (sinceReset requests)).map (delay least most)
        sequence := after least most (sinceReset requests) } := by
  induction requests using List.reverseRecOn with
  | nil =>
    rw [answered, List.foldl_nil, ← after_zero h]
    rfl
  | append_singleton requests last ih =>
    rw [answered_append, ih]
    cases last with
    | next =>
      rw [sinceReset_next, Answered.ask, List.range'_1_concat, List.map_append, seconds_after,
        advance_after]
      simp [Nat.add_comm]
    | reset =>
      rw [sinceReset_reset, Answered.ask, reset_after h]
      rfl

theorem delay_mono (least most : ℕ) : Monotone (delay least most) := by
  intro i j hij
  have hfib : least * Nat.fib i ≤ least * Nat.fib j := Nat.mul_le_mul_left _ (Nat.fib_mono hij)
  unfold delay
  omega

theorem delay_bounds (h : least ≤ most) {n : ℕ} (hn : 1 ≤ n) :
    60 * least ≤ delay least most n ∧ delay least most n ≤ 60 * most := by
  have hfib : least * 1 ≤ least * Nat.fib n :=
    Nat.mul_le_mul_left _ (Nat.fib_pos.mpr hn)
  unfold delay
  omega

/-- Both numbers that a sequence counts with stay below its limit. -/
theorem after_le (least most n : ℕ) :
    (after least most n).previous ≤ most ∧ (after least most n).current ≤ most :=
  ⟨Nat.min_le_right _ _, Nat.min_le_right _ _⟩

/-- A sequence between limits that leave room in 64 bits, after any requests: what its next delay
and the one after it are computed from fits into 64 bits; the delays since the last reset are the
Fibonacci multiples of the least one, at most the most; so they do not decrease and stay between
the limits; and a reset brings back the sequence as it was new. -/
theorem delays_closed_form (h : least ≤ most) (hproduct : 60 * most < 2 ^ 64)
    (hsum : 2 * most < 2 ^ 64) (requests : List Request) :
    let a := answered least most requests
    a.sequence.current * 60 < 2 ^ 64 ∧ a.sequence.previous + a.sequence.current < 2 ^ 64 ∧
    a.given = (List.range' 1 (sinceReset requests)).map
      (fun n => 60 * min (least * Nat.fib n) most) ∧
    a.given.Pairwise (· ≤ ·) ∧
    (∀ d ∈ a.given, 60 * least ≤ d ∧ d ≤ 60 * most) ∧
    a.sequence.reset = { least, most } := by
  intro a
  have ha : a = _ := answered_eq h requests
  obtain ⟨hprevious, hcurrent⟩ := after_le least most (sinceReset requests)
  rw [ha]
  dsimp only
  refine ⟨?_, ?_, rfl, ?_, ?_, ?_⟩
  · have hlast : (after least most (sinceReset requests)).current * 60 ≤ 60 * most := by omega
    exact hlast.trans_lt hproduct
  · have htwice : (after least most (sinceReset requests)).previous +
        (after least most (sinceReset requests)).current ≤ 2 * most := by omega
    exact htwice.trans_lt hsum
  · rw [List.pairwise_map]
    refine (List.pairwise_lt_range' (s := 1) (n := sinceReset requests)).imp ?_
    intro i j hij
    exact delay_mono least most hij.le
  · intro d hd
    obtain ⟨n, hn, rfl⟩ := List.mem_map.mp hd
    exact delay_bounds h (List.mem_range'_1.mp hn).1
  · rw [reset_after h, after_zero h]

/-- Nine delays, a reset, and three delays more, counted from one to ten minutes. -/
theorem delays_closed_form_ten :
    let requests := List.replicate 9 Request.next
    (answered 1 10 requests).given = [60, 60, 120, 180, 300, 480, 600, 600, 600] ∧
      (answered 1 10 (requests ++ [.reset, .next, .next, .next])).given = [60, 60, 120] ∧
      (answered 1 10 requests).sequence.reset = { least := 1, most := 10 } := by
  intro requests
  obtain ⟨-, -, hgiven, -, -, hreset⟩ :=
    delays_closed_form (by decide : 1 ≤ 10) (by decide) (by decide) requests
  obtain ⟨-, -, hagain, -⟩ := delays_closed_form (by decide : 1 ≤ 10) (by decide) (by decide)
    (requests ++ [.reset, .next, .next, .next])
  refine ⟨hgiven.trans (by decide), hagain.trans (by decide), hreset⟩

end MachineActuator.Backoff
