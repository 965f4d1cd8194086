import KeyHash.Complex.Basic
import KeyHash.Float.Binary
import KeyHash.Word.Wide

/-! # Complex numbers as words

A complex number of two floating-point components fills one word: the bits of the real component are
the lower half and those of the imaginary one the upper half, as they lie in little-endian
memory. -/

namespace KeyHash.Complex

/-- The bits of two 32-bit components in one word. -/
def packed32 (z : Complex Binary32) : UInt64 :=
  z.re.bits.toUInt64 ||| (z.im.bits.toUInt64 <<< 32)

/-- The bits of two 64-bit components in one word. -/
def packed64 (z : Complex Binary64) : UInt128 := UInt128.ofHalves z.re.bits z.im.bits

end KeyHash.Complex
