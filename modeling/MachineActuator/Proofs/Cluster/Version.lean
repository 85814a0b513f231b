import Mathlib
import MachineActuator.Cluster.Infra

/-! # Versions count up

The version of a virtual machine is a number in decimal, and the next one is written out again.  A
number that is in range reads back (`Decimal.counter_repr`); one that is not, and a text that is no
number at all, stands for zero.  Either way no version comes after itself
(`InfraCluster.nextVersion_ne`), so that a version tells whether a replacement changed anything. -/

namespace MachineActuator

namespace Decimal

theorem ofDigits?_of_isDigit (ds : List Char) (acc : Nat) (h : ∀ c ∈ ds, c.isDigit = true) :
    ofDigits? acc ds = some (Nat.ofDigitChars 10 ds acc) := by
  induction ds generalizing acc with
  | nil => rfl
  | cons c rest ih =>
    obtain ⟨hc, hrest⟩ := List.forall_mem_cons.mp h
    unfold ofDigits?
    rw [if_pos hc, ih _ hrest, Nat.ofDigitChars_cons, Nat.mul_comm]

theorem nat?_repr (n : Nat) : nat? (Nat.repr n) = some n := by
  have hdigits : ∀ c ∈ Nat.toDigits 10 n, c.isDigit = true :=
    fun c hc => Nat.isDigit_of_mem_toDigits (by decide) (by decide) hc
  have hlist : (Nat.repr n).toList = Nat.toDigits 10 n := by simp
  unfold nat?
  rw [hlist]
  dsimp only
  split
  · next rest h =>
    have hplus := hdigits '+' (by simp [h])
    exact absurd hplus (by decide)
  · rw [if_neg (by simp [Nat.toDigits_ne_nil]), ofDigits?_of_isDigit _ _ hdigits,
      Nat.ofDigitChars_ten_toDigits]

theorem counter_repr {n : Nat} (h : n < 2 ^ 64) : counter (Nat.repr n) = n := by
  unfold counter
  rw [nat?_repr]
  exact if_pos h

theorem counter_repr_le (n : Nat) : counter (Nat.repr n) ≤ n := by
  by_cases hrange : n < 2 ^ 64
  · exact (counter_repr hrange).le
  · unfold counter
    rw [nat?_repr]
    exact (if_neg hrange).trans_le (Nat.zero_le n)

end Decimal

namespace InfraCluster

/-- A version that comes after another one stands for the next number, or for zero if that is too
large. -/
theorem counter_nextVersion (version : Option String) :
    Decimal.counter (nextVersion version) = Decimal.counter (version.getD "") + 1 ∨
      Decimal.counter (nextVersion version) = 0 ∧
        2 ^ 64 ≤ Decimal.counter (version.getD "") + 1 := by
  unfold nextVersion
  by_cases hrange : Decimal.counter (version.getD "") + 1 < 2 ^ 64
  · left
    exact Decimal.counter_repr hrange
  · right
    have hzero : Decimal.counter (Nat.repr (Decimal.counter (version.getD "") + 1)) = 0 := by
      rw [Decimal.counter, Decimal.nat?_repr]
      exact if_neg hrange
    exact ⟨hzero, by omega⟩

/-- No version comes after itself. -/
theorem nextVersion_ne (version : Option String) : version ≠ some (nextVersion version) := by
  intro hsame
  have htext : version.getD "" = nextVersion version := by
    rw [hsame, Option.getD_some, ← hsame]
  have hnext := counter_nextVersion version
  rw [← htext] at hnext
  omega

end InfraCluster

end MachineActuator
