import KeyHash.Complex.Packing
import KeyHash.Mix.Fixed

/-! # Hashing numbers by their bits

A floating-point number is never converted before it is hashed: its bit pattern goes to the mixer of
its width. So the two zeros hash apart, as do patterns that differ in the payload of what is not a
number. -/

namespace KeyHash

/-- Hash of a floating-point number of four bytes. -/
def Binary32.hash (key : Binary32) : UInt64 := Mix.dword key.bits

/-- Hash of a floating-point number of eight bytes. -/
def Binary64.hash (key : Binary64) : UInt64 := Mix.qword key.bits

/-- Hash of a complex number with components of four bytes. -/
def Complex.hash32 (key : Complex Binary32) : UInt64 := Mix.qword key.packed32

/-- Hash of a complex number with components of eight bytes. -/
def Complex.hash64 (key : Complex Binary64) : UInt64 := Mix.oword key.packed64

end KeyHash
