import TunnelBore.Lib.Units
import TunnelBore.Shared.MemoryUnit

namespace TunnelBore

open TunnelBore.Lib

/-!
# Suffixes of a `MemoryUnit`

A `MemoryUnit` is written in the source as a literal with a suffix, and printed with one.  The
factor of a literal is multiplied in 64 bits, before the product becomes a `MemoryUnit`.

* `LiteralSuffix.literal` — the literal operators;
* `literal_exact_iff` — a literal is exact as long as its bytes can be counted in 64 bits;
* `scale`, `print` — the loop of `operator<<`, and what it prints;
* `prints_in_units` — the unit that is printed is the largest one of which there is one.
-/

namespace MemoryUnit

/-! ### Literals -/

/-- `operator"" _B`. -/
def literalB (bytes : UInt64) : MemoryUnit := ofNat bytes.toNat

/-- `operator"" _KB`. -/
def literalKB (kilobytes : UInt64) : MemoryUnit := ofNat (kilobytes * 1024).toNat

/-- `operator"" _MB`. -/
def literalMB (megabytes : UInt64) : MemoryUnit := ofNat (megabytes * 1024 * 1024).toNat

/-- `operator"" _GB`. -/
def literalGB (gigabytes : UInt64) : MemoryUnit := ofNat (gigabytes * 1024 * 1024 * 1024).toNat

/-- `operator"" _TB`. -/
def literalTB (terabytes : UInt64) : MemoryUnit :=
  ofNat (terabytes * 1024 * 1024 * 1024 * 1024).toNat

/-- `operator"" _PB`. -/
def literalPB (petabytes : UInt64) : MemoryUnit :=
  ofNat (petabytes * 1024 * 1024 * 1024 * 1024 * 1024).toNat

/-- `operator"" _EB`. -/
def literalEB (exabytes : UInt64) : MemoryUnit :=
  ofNat (exabytes * 1024 * 1024 * 1024 * 1024 * 1024 * 1024).toNat

/-- The suffixes of literals. -/
inductive LiteralSuffix
  | B | KB | MB | GB | TB | PB | EB
  deriving DecidableEq, Repr

namespace LiteralSuffix

/-- The power of 1024 that a suffix stands for. -/
def exponent : LiteralSuffix → Nat
  | B  => 0
  | KB => 1
  | MB => 2
  | GB => 3
  | TB => 4
  | PB => 5
  | EB => 6

/-- The literal operator of a suffix. -/
def literal : LiteralSuffix → UInt64 → MemoryUnit
  | B  => literalB
  | KB => literalKB
  | MB => literalMB
  | GB => literalGB
  | TB => literalTB
  | PB => literalPB
  | EB => literalEB

end LiteralSuffix

/-- One more factor. -/
theorem toNat_mul_kilo {n : UInt64} {x : Nat} (h : n.toNat = x % 2 ^ 64) :
    (n * 1024).toNat = x * 1024 % 2 ^ 64 := by
  rw [UInt64.toNat_mul, h]
  exact Nat.mod_mul_mod x 1024 (2 ^ 64)

/-- A number of 64 bits is kept as it is. -/
theorem toNat_ofNat_word (n : UInt64) : (ofNat n.toNat).bytes.toNat = n.toNat := by
  have hlt := n.toNat_lt
  exact toNat_ofNat (by omega)

/-- **A literal** holds the low 64 bits of its bytes. -/
theorem toNat_literal (suffix : LiteralSuffix) (n : UInt64) :
    (suffix.literal n).bytes.toNat = n.toNat * 1024 ^ suffix.exponent % 2 ^ 64 := by
  have hB : n.toNat = n.toNat % 2 ^ 64 := (Nat.mod_eq_of_lt n.toNat_lt).symm
  have hKB := toNat_mul_kilo hB
  have hMB := toNat_mul_kilo hKB
  have hGB := toNat_mul_kilo hMB
  have hTB := toNat_mul_kilo hGB
  have hPB := toNat_mul_kilo hTB
  have hEB := toNat_mul_kilo hPB
  cases suffix with
  | B  =>
    rw [LiteralSuffix.exponent, pow_zero, mul_one]
    exact (toNat_ofNat_word n).trans hB
  | KB => exact (toNat_ofNat_word _).trans hKB
  | MB => exact (toNat_ofNat_word _).trans (hMB.trans (by rw [mul_assoc]; rfl))
  | GB => exact (toNat_ofNat_word _).trans (hGB.trans (by simp only [mul_assoc]; rfl))
  | TB => exact (toNat_ofNat_word _).trans (hTB.trans (by simp only [mul_assoc]; rfl))
  | PB => exact (toNat_ofNat_word _).trans (hPB.trans (by simp only [mul_assoc]; rfl))
  | EB => exact (toNat_ofNat_word _).trans (hEB.trans (by simp only [mul_assoc]; rfl))

theorem exponent_le (suffix : LiteralSuffix) : suffix.exponent ≤ 6 := by
  cases suffix <;> decide

/-- The bytes of a literal fit into 128 bits. -/
theorem literal_fits (suffix : LiteralSuffix) (n : UInt64) :
    n.toNat * 1024 ^ suffix.exponent < 2 ^ 128 := by
  have hpower : 1024 ^ suffix.exponent ≤ 1024 ^ 6 :=
    Nat.pow_le_pow_right (by decide) (exponent_le suffix)
  calc n.toNat * 1024 ^ suffix.exponent
      ≤ n.toNat * 1024 ^ 6 := Nat.mul_le_mul_left _ hpower
    _ < 2 ^ 64 * 1024 ^ 6 := Nat.mul_lt_mul_of_pos_right n.toNat_lt (by decide)
    _ ≤ 2 ^ 128 := by decide

/-- **A literal is exact** exactly when its number is below the power of two that the factor leaves
    of 64 bits. -/
theorem literal_exact_iff (suffix : LiteralSuffix) (n : UInt64) :
    ((suffix.literal n).bytes.toNat = n.toNat * 1024 ^ suffix.exponent ∧
        n.toNat * 1024 ^ suffix.exponent < 2 ^ 128) ↔
      n.toNat < 2 ^ (64 - 10 * suffix.exponent) := by
  rw [and_iff_left (literal_fits suffix n), toNat_literal, Nat.mod_eq_iff_lt (by decide)]
  have hexponent := exponent_le suffix
  have hsplit : 2 ^ 64 = 2 ^ (64 - 10 * suffix.exponent) * 1024 ^ suffix.exponent := by
    rw [show 1024 = 2 ^ 10 from rfl, ← pow_mul, ← pow_add]
    congr 1
    omega
  rw [hsplit]
  exact Nat.mul_lt_mul_right (Nat.pow_pos (by decide))

/-- `16_EB`, which is 2 ^ 64 bytes, holds nothing. -/
theorem literal_wraps :
    (LiteralSuffix.EB.literal 16).bytes.toNat = 0 ∧
      (LiteralSuffix.EB.literal 16).bytes.toNat ≠
        (16 : UInt64).toNat * 1024 ^ LiteralSuffix.EB.exponent := by
  decide

/-! ### Printing -/

/-- `suffixes` in `operator<<`. -/
def suffixes : List String := ["B", "KB", "MB", "GB", "TB", "PB", "EB", "ZB", "YB"]

/-- The loop of `operator<<`, over `bytes` and `suffix_index`. -/
def scale (bytes : BitVec 128) (suffixIndex : Nat) : BitVec 128 × Nat :=
  if 1024 ≤ bytes ∧ suffixIndex < 8 then scale (bytes / 1024) (suffixIndex + 1)
  else (bytes, suffixIndex)
termination_by 8 - suffixIndex

variable (m : MemoryUnit)

/-- The number that is printed. -/
def printedNumber : Nat := (scale m.bytes 0).1.toNat

/-- The index of the suffix that is printed. -/
def suffixIndex : Nat := (scale m.bytes 0).2

/-- `operator<<` on a stream of decimals, and `toString`; the format for floating point numbers
    does not concern an integer.  `none` says that the index is behind the suffixes. -/
def print : Option String :=
  suffixes[m.suffixIndex]?.map fun suffix => toString m.printedNumber ++ " " ++ suffix

variable {m}

/-- **The loop** ends with the largest unit of which there is one. -/
theorem scaled_scale {b : Nat} {bytes : BitVec 128} {index : Nat}
    (h : Units 1024 b bytes.toNat index) (hindex : index ≤ 8) (hpos : 1 ≤ bytes.toNat ∨ index = 0) :
    Scaled 1024 8 b (scale bytes index).1.toNat (scale bytes index).2 := by
  fun_induction scale bytes index with
  | case1 bytes index hgo ih =>
    obtain ⟨hlarge, hless⟩ := hgo
    have hdiv : (bytes / 1024).toNat = bytes.toNat / 1024 := BitVec.toNat_udiv
    have hone : 1024 ≤ bytes.toNat := hlarge
    apply ih
    · rw [hdiv]
      exact h.divide (by decide)
    · omega
    · rw [hdiv]
      omega
  | case2 bytes index hstop =>
    have hsmall : bytes.toNat < 1024 ∨ index = 8 := by
      rw [not_and_or] at hstop
      rcases hstop with hsmall | hlast
      · left
        exact Nat.lt_of_not_le hsmall
      · omega
    exact ⟨h, hindex, hsmall, hpos⟩

theorem scaled_printed (m : MemoryUnit) :
    Scaled 1024 8 m.bytes.toNat m.printedNumber m.suffixIndex :=
  scaled_scale (units_one 1024 m.bytes.toNat) (Nat.zero_le 8) (.inr rfl)

/-- What is printed is the number of whole units of the largest suffix of which there is one. -/
structure Printed (m : MemoryUnit) : Prop where
  index_le : m.suffixIndex ≤ 8
  lower : m.printedNumber * 1024 ^ m.suffixIndex ≤ m.bytes.toNat
  upper : m.bytes.toNat < (m.printedNumber + 1) * 1024 ^ m.suffixIndex
  small : m.printedNumber < 1024 ∨ m.suffixIndex = 8
  pos : 1 ≤ m.printedNumber ∨ m.bytes.toNat = 0
  /-- The suffix is read, and printed behind the number. -/
  inBounds : ∃ suffix, suffixes[m.suffixIndex]? = some suffix ∧
    m.print = some (toString m.printedNumber ++ " " ++ suffix)

/-- **Printing picks the right unit**, and a larger number a later one. -/
theorem prints_in_units :
    (∀ m : MemoryUnit, m.Printed) ∧
      ∀ m n : MemoryUnit, m.bytes ≤ n.bytes →
        m.suffixIndex < n.suffixIndex ∨
          m.suffixIndex = n.suffixIndex ∧ m.printedNumber ≤ n.printedNumber := by
  refine ⟨fun m => ?_, fun m n hle => (scaled_printed m).mono (scaled_printed n) hle⟩
  have hscaled := scaled_printed m
  have hlength : m.suffixIndex < suffixes.length := by
    show m.suffixIndex < 9
    have hle := hscaled.index_le
    omega
  refine ⟨hscaled.index_le, hscaled.lower, hscaled.upper, hscaled.small, ?_, ?_⟩
  · by_cases hzero : m.bytes.toNat = 0
    · exact .inr hzero
    · exact .inl (hscaled.pos_of_ne_zero hzero)
  · refine ⟨suffixes[m.suffixIndex], List.getElem?_eq_getElem hlength, ?_⟩
    unfold print
    rw [List.getElem?_eq_getElem hlength]
    rfl

/-- The last number of bytes and the first of kilobytes. -/
theorem prints_in_units_kilobyte :
    (literalB 1023).suffixIndex < (literalKB 1).suffixIndex ∨
      (literalB 1023).suffixIndex = (literalKB 1).suffixIndex ∧
        (literalB 1023).printedNumber ≤ (literalKB 1).printedNumber :=
  prints_in_units.2 _ _ (by decide)

end MemoryUnit

end TunnelBore
