import Mathlib.Algebra.GroupWithZero.Nat

namespace TunnelBore

/-!
# `MemoryUnit`

A number of bytes in an unchecked 128 bit integer (`boost::multiprecision::uint128_t`): the
mutating operators work modulo `2 ^ 128`.
-/

/-- `class MemoryUnit`. -/
structure MemoryUnit where
  bytes : BitVec 128
  deriving DecidableEq, Repr

namespace MemoryUnit

/-- The constructor from an integral value. -/
def ofNat (bytes : Nat) : MemoryUnit := ⟨BitVec.ofNat 128 bytes⟩

/-- `MemoryUnit::operator+=` for an unsigned operand. -/
def addAssign (m : MemoryUnit) (bytes : Nat) : MemoryUnit :=
  ⟨m.bytes + BitVec.ofNat 128 bytes⟩

/-- Counting on from `m` bytes. -/
theorem addAssign_ofNat (m n : Nat) : (ofNat m).addAssign n = ofNat (m + n) := by
  unfold addAssign ofNat
  rw [BitVec.ofNat_add]

/-- A number of bytes that fits into 128 bits is held exactly. -/
theorem toNat_ofNat {m : Nat} (h : m < 2 ^ 128) : (ofNat m).bytes.toNat = m := by
  show (BitVec.ofNat 128 m).toNat = m
  rw [BitVec.toNat_ofNat]
  exact Nat.mod_eq_of_lt h

end MemoryUnit

end TunnelBore
