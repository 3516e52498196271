import Mathlib.Algebra.Order.Ring.Nat
import Mathlib.Tactic.Ring

namespace TunnelBore.Lib

/-!
# Numbers in units of a power

A number is written as whole units of `base ^ i`, and what is left over is cut.

* `Units` — `q` units of `base ^ i`, and less than one more;
* `Units.divide` — one division by the base goes on to the next unit;
* `Scaled` — the largest unit up to `base ^ cap` of which there is one;
* `Scaled.mono` — units first and then how many of them there are: larger numbers come later.
-/

variable {base cap b c q r i j : Nat}

/-- There are `q` whole units of `base ^ i` in `b`. -/
structure Units (base b q i : Nat) : Prop where
  lower : q * base ^ i ≤ b
  upper : b < (q + 1) * base ^ i

/-- The unit 1. -/
theorem units_one (base b : Nat) : Units base b b 0 := by
  refine ⟨?_, ?_⟩
  · rw [pow_zero, mul_one]
  · rw [pow_zero, mul_one]
    exact Nat.lt_succ_self b

/-- A division that cuts goes on to the next unit. -/
theorem Units.divide (h : Units base b q i) (hbase : 0 < base) :
    Units base b (q / base) (i + 1) := by
  have hlower : q / base * base ≤ q := Nat.div_mul_le_self q base
  have hupper : q + 1 ≤ (q / base + 1) * base := by
    rw [Nat.succ_mul]
    exact Nat.lt_div_mul_add hbase
  refine ⟨?_, ?_⟩
  · calc q / base * base ^ (i + 1)
        = q / base * base * base ^ i := by ring
      _ ≤ q * base ^ i := Nat.mul_le_mul_right _ hlower
      _ ≤ b := h.lower
  · calc b
        < (q + 1) * base ^ i := h.upper
      _ ≤ (q / base + 1) * base * base ^ i := Nat.mul_le_mul_right _ hupper
      _ = (q / base + 1) * base ^ (i + 1) := by ring

/-- The same unit counts more of a larger number. -/
theorem Units.mono (hb : Units base b q i) (hc : Units base c r i) (h : b ≤ c) : q ≤ r := by
  have hlt : q * base ^ i < (r + 1) * base ^ i := hb.lower.trans_lt (h.trans_lt hc.upper)
  have hcount : q < r + 1 := lt_of_mul_lt_mul_right hlt (Nat.zero_le _)
  omega

/-- The largest unit up to `base ^ cap` of which there is one in `b`, or the smallest one. -/
structure Scaled (base cap b q i : Nat) : Prop extends Units base b q i where
  index_le : i ≤ cap
  small : q < base ∨ i = cap
  pos : 1 ≤ q ∨ i = 0

/-- Only of nothing there is no unit. -/
theorem Scaled.pos_of_ne_zero (h : Scaled base cap b q i) (hb : b ≠ 0) : 1 ≤ q := by
  rcases h.pos with hpos | rfl
  · exact hpos
  · have hupper := h.upper
    rw [pow_zero, mul_one] at hupper
    omega

/-- **Larger numbers come later**, by the unit and then by the count. -/
theorem Scaled.mono (hb : Scaled base cap b q i) (hc : Scaled base cap c r j) (h : b ≤ c) :
    i < j ∨ i = j ∧ q ≤ r := by
  rcases lt_trichotomy i j with hlt | rfl | hgt
  · exact .inl hlt
  · exact .inr ⟨rfl, hb.toUnits.mono hc.toUnits h⟩
  · -- a unit of the larger power would be more than all of `c`
    exfalso
    have hq : 1 ≤ q := hb.pos.resolve_right (by omega)
    have hr : r < base := hc.small.resolve_right (by have := hb.index_le; omega)
    have hbase : 0 < base := by omega
    have hless : c < base ^ i := by
      calc c
          < (r + 1) * base ^ j := hc.upper
        _ ≤ base * base ^ j := Nat.mul_le_mul_right _ hr
        _ = base ^ (j + 1) := by ring
        _ ≤ base ^ i := Nat.pow_le_pow_right hbase hgt
    have hmore : base ^ i ≤ b := by
      calc base ^ i
          = 1 * base ^ i := (one_mul _).symm
        _ ≤ q * base ^ i := Nat.mul_le_mul_right _ hq
        _ ≤ b := hb.lower
    omega

end TunnelBore.Lib
