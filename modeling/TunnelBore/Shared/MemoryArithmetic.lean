import Mathlib.Algebra.Order.Ring.Nat
import TunnelBore.Lib.Run
import TunnelBore.Shared.MemoryUnit

namespace TunnelBore

open TunnelBore.Lib

/-!
# Arithmetic with a `MemoryUnit`

The mutating operators of `MemoryUnit` take any integral operand and hand it to the operator of
`boost::multiprecision::uint128_t`, which converts it modulo `2 ^ 128`.  A division by zero and a
shift by a negative number throw.  The operator that assigns an integer shifts to the right.

* `MemoryUnit.step` — the operators one after another;
* `plainStep` — the same for a plain unsigned integer of 128 bits, in arithmetic;
* `MemoryUnit.follows_iff` — a unit follows the plain integer exactly when every assignment finds
  a value that the shift takes to the operand.
-/

/-! ### Operands and operators -/

/-- A value of an integral type; none of these types has more than 64 bits. -/
structure Integral where
  value : Int
  low : -2 ^ 63 ≤ value := by decide
  high : value < 2 ^ 64 := by decide
  deriving DecidableEq, Repr

/-- The operand of `uint128_t`. -/
def Integral.toUInt128 (n : Integral) : BitVec 128 := BitVec.ofInt 128 n.value

/-- The mutating operators. -/
inductive MutatingOperator
  | assign
  | plus
  | minus
  | times
  | divide
  | modulo
  | and
  | or
  | xor
  | shiftLeft
  | shiftRight
  deriving DecidableEq, Repr

/-- An operator with its right operand. -/
structure Mutation where
  operator : MutatingOperator
  bytes : Integral
  deriving DecidableEq, Repr

namespace MemoryUnit

variable (m : MemoryUnit) (bytes : Integral)

/-- An operator that converts its operand. -/
def modify (f : BitVec 128 → BitVec 128 → BitVec 128) : Option MemoryUnit :=
  some ⟨f m.bytes bytes.toUInt128⟩

/-- A division; by zero it throws. -/
def divideBy (f : BitVec 128 → BitVec 128 → BitVec 128) : Option MemoryUnit :=
  if bytes.toUInt128 = 0 then none else m.modify bytes f

/-- A shift; by a negative number it throws. -/
def shiftBy (f : BitVec 128 → Nat → BitVec 128) : Option MemoryUnit :=
  if bytes.value < 0 then none else some ⟨f m.bytes bytes.value.toNat⟩

/-- `MemoryUnit::operator+=`. -/
def plusAssign : Option MemoryUnit := m.modify bytes fun x y => x + y

/-- `MemoryUnit::operator-=`. -/
def minusAssign : Option MemoryUnit := m.modify bytes fun x y => x - y

/-- `MemoryUnit::operator*=`. -/
def timesAssign : Option MemoryUnit := m.modify bytes fun x y => x * y

/-- `MemoryUnit::operator/=`. -/
def divideAssign : Option MemoryUnit := m.divideBy bytes fun x y => x / y

/-- `MemoryUnit::operator%=`. -/
def moduloAssign : Option MemoryUnit := m.divideBy bytes fun x y => x % y

/-- `MemoryUnit::operator&=`. -/
def andAssign : Option MemoryUnit := m.modify bytes fun x y => x &&& y

/-- `MemoryUnit::operator|=`. -/
def orAssign : Option MemoryUnit := m.modify bytes fun x y => x ||| y

/-- `MemoryUnit::operator^=`. -/
def xorAssign : Option MemoryUnit := m.modify bytes fun x y => x ^^^ y

/-- `MemoryUnit::operator<<=`. -/
def shiftLeftAssign : Option MemoryUnit := m.shiftBy bytes fun x n => x <<< n

/-- `MemoryUnit::operator>>=`. -/
def shiftRightAssign : Option MemoryUnit := m.shiftBy bytes fun x n => x >>> n

/-- `MemoryUnit::operator=` from an integral value; its body is that of `operator>>=`. -/
def assign : Option MemoryUnit := m.shiftBy bytes fun x n => x >>> n

/-- One operator; `none` says that it throws. -/
def step (m : MemoryUnit) (mutation : Mutation) : Option MemoryUnit :=
  match mutation.operator with
  | .assign     => m.assign mutation.bytes
  | .plus       => m.plusAssign mutation.bytes
  | .minus      => m.minusAssign mutation.bytes
  | .times      => m.timesAssign mutation.bytes
  | .divide     => m.divideAssign mutation.bytes
  | .modulo     => m.moduloAssign mutation.bytes
  | .and        => m.andAssign mutation.bytes
  | .or         => m.orAssign mutation.bytes
  | .xor        => m.xorAssign mutation.bytes
  | .shiftLeft  => m.shiftLeftAssign mutation.bytes
  | .shiftRight => m.shiftRightAssign mutation.bytes

end MemoryUnit

/-! ### A plain integer -/

/-- An integer modulo `2 ^ 128`. -/
def residue (n : Int) : Nat := (n % 2 ^ 128).toNat

/-- The operators on a plain unsigned integer of 128 bits; `none` where they have no result. -/
def plainStep (b : Nat) (mutation : Mutation) : Option Nat :=
  let n := mutation.bytes.value
  match mutation.operator with
  | .assign     => some (residue n)
  | .plus       => some (residue (b + n))
  | .minus      => some (residue (b - n))
  | .times      => some (residue (b * n))
  | .divide     => if n = 0 then none else some (b / residue n)
  | .modulo     => if n = 0 then none else some (b % residue n)
  | .and        => some (b &&& residue n)
  | .or         => some (b ||| residue n)
  | .xor        => some (b ^^^ residue n)
  | .shiftLeft  => if n < 0 then none else some (b * 2 ^ n.toNat % 2 ^ 128)
  | .shiftRight => if n < 0 then none else some (b / 2 ^ n.toNat)

/-! ### The operators in arithmetic -/

theorem toNat_toUInt128 (n : Integral) : n.toUInt128.toNat = residue n.value :=
  BitVec.toNat_ofInt n.value

/-- Only zero is converted to zero. -/
theorem toUInt128_eq_zero_iff (n : Integral) : n.toUInt128 = 0 ↔ n.value = 0 := by
  have hlow := n.low
  have hhigh := n.high
  rw [← BitVec.toNat_inj, toNat_toUInt128]
  show residue n.value = 0 ↔ n.value = 0
  unfold residue
  omega

namespace MemoryUnit

variable {m : MemoryUnit} {bytes : Integral}

/-- The bytes that a unit holds, as a plain integer. -/
def held (m : MemoryUnit) : Nat := m.bytes.toNat

/-- An operation that is compatible with the conversion is that operation modulo `2 ^ 128`. -/
theorem held_modify_int {f : BitVec 128 → BitVec 128 → BitVec 128} {g : Int → Int → Int}
    (hf : ∀ a b, BitVec.ofInt 128 (g a b) = f (BitVec.ofInt 128 a) (BitVec.ofInt 128 b)) :
    (m.modify bytes f).map held = some (residue (g m.held bytes.value)) := by
  have hbytes : BitVec.ofInt 128 m.held = m.bytes := by
    show BitVec.ofNat 128 m.bytes.toNat = m.bytes
    rw [BitVec.ofNat_toNat, BitVec.setWidth_eq]
  show some (f m.bytes bytes.toUInt128).toNat = _
  rw [← hbytes, Integral.toUInt128, ← hf, BitVec.toNat_ofInt]
  rfl

/-- An operation on the numbers that two integers of 128 bits stand for. -/
theorem held_modify {f : BitVec 128 → BitVec 128 → BitVec 128} {g : Nat → Nat → Nat}
    (hf : ∀ x y, (f x y).toNat = g x.toNat y.toNat) :
    (m.modify bytes f).map held = some (g m.held (residue bytes.value)) := by
  show some (f m.bytes bytes.toUInt128).toNat = _
  rw [hf, toNat_toUInt128]
  rfl

theorem held_divideBy {f : BitVec 128 → BitVec 128 → BitVec 128} {g : Nat → Nat → Nat}
    (hf : ∀ x y, (f x y).toNat = g x.toNat y.toNat) :
    (m.divideBy bytes f).map held =
      if bytes.value = 0 then none else some (g m.held (residue bytes.value)) := by
  unfold divideBy
  by_cases hzero : bytes.value = 0
  · rw [if_pos hzero, if_pos ((toUInt128_eq_zero_iff bytes).mpr hzero)]
    rfl
  · rw [if_neg hzero, if_neg (mt (toUInt128_eq_zero_iff bytes).mp hzero)]
    exact held_modify hf

theorem held_shiftBy {f : BitVec 128 → Nat → BitVec 128} {g : Nat → Nat → Nat}
    (hf : ∀ x n, (f x n).toNat = g x.toNat n) :
    (m.shiftBy bytes f).map held =
      if bytes.value < 0 then none else some (g m.held bytes.value.toNat) := by
  unfold shiftBy
  split
  · rfl
  · show some (f m.bytes bytes.value.toNat).toNat = _
    rw [hf]
    rfl

/-- A shift to the right divides by a power of two. -/
theorem toNat_shiftRight (x : BitVec 128) (n : Nat) : (x >>> n).toNat = x.toNat / 2 ^ n := by
  rw [BitVec.toNat_ushiftRight, Nat.shiftRight_eq_div_pow]

/-- A shift to the left multiplies by one. -/
theorem toNat_shiftLeft (x : BitVec 128) (n : Nat) :
    (x <<< n).toNat = x.toNat * 2 ^ n % 2 ^ 128 := by
  rw [BitVec.toNat_shiftLeft, Nat.shiftLeft_eq]

/-- An assignment of `n` finds `n` behind the last `n` bits of what the unit holds. -/
structure Fits (b : Nat) (n : Int) : Prop where
  nonneg : 0 ≤ n
  lower : n.toNat * 2 ^ n.toNat ≤ b
  upper : b < (n.toNat + 1) * 2 ^ n.toNat

/-- **`operator=`** assigns its operand exactly when it fits. -/
theorem assign_iff :
    (m.assign bytes).map held = some (residue bytes.value) ↔ Fits m.held bytes.value := by
  have hlow := bytes.low
  have hhigh := bytes.high
  rw [assign, held_shiftBy (g := fun b n => b / 2 ^ n) toNat_shiftRight]
  by_cases hneg : bytes.value < 0
  · rw [if_pos hneg]
    refine iff_of_false (by simp) fun h => ?_
    have hnonneg := h.nonneg
    omega
  · have hresidue : residue bytes.value = bytes.value.toNat := by
      unfold residue
      omega
    rw [if_neg hneg, hresidue, Option.some_inj, Nat.div_eq_iff (Nat.two_pow_pos _)]
    have hnext : (bytes.value.toNat + 1) * 2 ^ bytes.value.toNat =
        bytes.value.toNat * 2 ^ bytes.value.toNat + 2 ^ bytes.value.toNat := Nat.succ_mul _ _
    have hpos := Nat.two_pow_pos bytes.value.toNat
    constructor
    · rintro ⟨hlower, hupper⟩
      exact ⟨by omega, hlower, by omega⟩
    · rintro ⟨-, hlower, hupper⟩
      exact ⟨hlower, by omega⟩

/-! ### Sequences of operators -/

/-- The operator is not an assignment, or its operand fits. -/
def Harmless (b : Nat) (mutation : Mutation) : Prop :=
  mutation.operator = .assign → Fits b mutation.bytes.value

/-- **One operator** does what it does to a plain integer exactly when it is harmless. -/
theorem step_iff (m : MemoryUnit) (mutation : Mutation) :
    (m.step mutation).map held = plainStep m.held mutation ↔ Harmless m.held mutation := by
  obtain ⟨operator, bytes⟩ := mutation
  have hright : ∀ {o : MutatingOperator}, o ≠ .assign →
      (m.step ⟨o, bytes⟩).map held = plainStep m.held ⟨o, bytes⟩ →
      ((m.step ⟨o, bytes⟩).map held = plainStep m.held ⟨o, bytes⟩ ↔
        Harmless m.held ⟨o, bytes⟩) :=
    fun ho heq => iff_of_true heq fun h => absurd h ho
  cases operator with
  | assign     => exact assign_iff.trans ⟨fun h _ => h, fun h => h rfl⟩
  | plus       => exact hright (by decide) (held_modify_int BitVec.ofInt_add)
  | minus      =>
    refine hright (by decide) (held_modify_int fun a b => ?_)
    rw [Int.sub_eq_add_neg, BitVec.ofInt_add, BitVec.ofInt_neg, BitVec.sub_eq_add_neg]
  | times      => exact hright (by decide) (held_modify_int BitVec.ofInt_mul)
  | divide     => exact hright (by decide) (held_divideBy fun _ _ => BitVec.toNat_udiv)
  | modulo     => exact hright (by decide) (held_divideBy fun _ _ => BitVec.toNat_umod)
  | and        => exact hright (by decide) (held_modify BitVec.toNat_and)
  | or         => exact hright (by decide) (held_modify BitVec.toNat_or)
  | xor        => exact hright (by decide) (held_modify BitVec.toNat_xor)
  | shiftLeft  =>
    exact hright (by decide)
      (held_shiftBy (g := fun b n => b * 2 ^ n % 2 ^ 128) toNat_shiftLeft)
  | shiftRight =>
    exact hright (by decide) (held_shiftBy (g := fun b n => b / 2 ^ n) toNat_shiftRight)

/-- After the operators, and after every one of them, the unit holds what a plain integer of
    128 bits is by then. -/
def Follows (m : MemoryUnit) (mutations : List Mutation) : Prop :=
  ∀ k, (run step m (mutations.take k)).map held = run plainStep m.held (mutations.take k)

/-- **A unit follows a plain integer** exactly when every assignment on the way fits. -/
theorem follows_iff (m : MemoryUnit) (mutations : List Mutation) :
    m.Follows mutations ↔ Along plainStep Harmless m.held mutations :=
  run_lockstep step_iff m mutations

/-- `mu = 3` leaves 1 in a unit of 10 bytes. -/
theorem follows_assign :
    (run step (ofNat 10) [⟨.assign, ⟨3, by decide, by decide⟩⟩]).map held = some 1 ∧
      ¬(ofNat 10).Follows [⟨.assign, ⟨3, by decide, by decide⟩⟩] := by
  refine ⟨by decide, fun h => ?_⟩
  exact absurd (h 1) (by decide)

end MemoryUnit

end TunnelBore
