import Mathlib.Data.List.Basic

namespace TunnelBore

/-!
# Byte strings

`std::string` and the contents of socket buffers are lists of bytes.  This file fixes the
byte literals (`ascii 'x'`), `std::isspace` of the "C" locale, and the one protocol constant
the two programs share, `publisherToBrokerPrefix`.
-/

/-- A `std::string`, a chunk of a stream or the contents of a buffer. -/
abbrev Bytes := List UInt8

/-- The byte of an ASCII character literal. -/
def ascii (c : Char) : UInt8 := c.toNat.toUInt8

/-- The bytes of an ASCII string literal. -/
def asciiString (s : String) : Bytes := s.toList.map ascii

/-- `std::isspace` in the "C" locale: space, `\t`, `\n`, `\v`, `\f` and `\r`. -/
def isspace (c : UInt8) : Bool := c == 32 || (9 ≤ c && c ≤ 13)

/-- `publisherToBrokerPrefix`: what a publisher-side connection sends first. -/
def publisherToBrokerPrefix : Bytes := asciiString "TUNNEL_BORE_P2B"

/-- The prefix has 15 bytes. -/
@[simp] theorem length_publisherToBrokerPrefix : publisherToBrokerPrefix.length = 15 := rfl

/-- No byte of the prefix is NUL, so a zero-padded buffer never completes it by accident. -/
theorem zero_notMem_publisherToBrokerPrefix : (0 : UInt8) ∉ publisherToBrokerPrefix := by decide

end TunnelBore
