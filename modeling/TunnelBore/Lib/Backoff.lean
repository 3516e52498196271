import Mathlib.Algebra.Order.Ring.Nat
import Mathlib.Data.List.Range
import Mathlib.Order.Lattice
import Mathlib.Tactic.Common

namespace TunnelBore.Lib

/-!
# Exponential back-off

A delay that is doubled with every failure, up to a cap, and starts again after a success.
`Backoff.delay n` is the delay after `n` failures in a row; `delays n` are the first `n` of them.
-/

/-- The first delay and the longest one. -/
structure Backoff where
  first : Nat
  cap : Nat
  deriving DecidableEq, Repr

namespace Backoff

variable (b : Backoff)

/-- One failure more. -/
def double (t : Nat) : Nat := min (t * 2) b.cap

/-- The delay after `n` failures in a row. -/
def delay (n : Nat) : Nat := min (b.first * 2 ^ n) b.cap

/-- The first `n` delays. -/
def delays (n : Nat) : List Nat := (List.range n).map b.delay

@[simp] theorem delays_zero : b.delays 0 = [] := rfl

theorem delays_succ (n : Nat) : b.delays (n + 1) = b.delays n ++ [b.delay n] := by
  unfold delays
  rw [List.range_succ, List.map_append]
  rfl

@[simp] theorem length_delays (n : Nat) : (b.delays n).length = n := by
  unfold delays
  rw [List.length_map, List.length_range]

theorem double_delay (n : Nat) : b.double (b.delay n) = b.delay (n + 1) := by
  have hpow : b.first * 2 ^ (n + 1) = b.first * 2 ^ n * 2 := by
    rw [Nat.pow_succ, Nat.mul_assoc]
  unfold double delay
  rw [hpow]
  omega

theorem delay_le_cap (n : Nat) : b.delay n ≤ b.cap := Nat.min_le_right _ _

/-- Delays grow. -/
theorem delay_mono {m n : Nat} (h : m ≤ n) : b.delay m ≤ b.delay n := by
  have hpow : b.first * 2 ^ m ≤ b.first * 2 ^ n :=
    Nat.mul_le_mul_left _ (Nat.pow_le_pow_right (by omega) h)
  unfold delay
  omega

theorem pairwise_delays (n : Nat) : (b.delays n).Pairwise (· ≤ ·) := by
  unfold delays
  rw [List.pairwise_map]
  exact List.pairwise_lt_range.imp fun h => b.delay_mono (Nat.le_of_lt h)

/-- Without the first delay. -/
def next : Backoff := ⟨b.first * 2, b.cap⟩

theorem delay_next (n : Nat) : b.next.delay n = b.delay (n + 1) := by
  show min (b.first * 2 * 2 ^ n) b.cap = min (b.first * 2 ^ (n + 1)) b.cap
  rw [Nat.pow_succ, Nat.mul_assoc, Nat.mul_comm 2 (2 ^ n)]

/-- In other units. -/
def scale (k : Nat) : Backoff := ⟨k * b.first, k * b.cap⟩

theorem delay_scale (k n : Nat) : (b.scale k).delay n = k * b.delay n := by
  show min (k * b.first * 2 ^ n) (k * b.cap) = k * min (b.first * 2 ^ n) b.cap
  rw [Nat.mul_assoc, Nat.mul_min_mul_left]

end Backoff

end TunnelBore.Lib
