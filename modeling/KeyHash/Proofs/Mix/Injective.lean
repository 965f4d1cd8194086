import KeyHash.Mix.Fixed
import KeyHash.Proofs.Mix.Inverse

/-! # Mixers of one fold

The mixers of one, four and eight bytes take the whole key in one step, so that a key is found again
by undoing the finishing, the step and the scrambling of the key in turn. On eight bytes every step
is a bijection, and so is the mixer. -/

namespace KeyHash.Mix

/-- The mixer of one byte tells all keys apart. -/
theorem byte_injective : Function.Injective byte := by
  intro a b h
  have hfold := avalanche_bijective.injective h
  exact byteFold_injective_byte _ hfold

/-- The mixer of four bytes tells all keys apart. -/
theorem dword_injective : Function.Injective dword := by
  intro a b h
  -- from the finishing step back to the scrambled key
  have hsum := avalanche_bijective.injective h
  have hproduct := (UInt64.add_left_inj _).mp hsum
  have hrotated := mul_injective prime2_mul_inverse hproduct
  have hxor := rotateLeft_injective 41 (by decide) hrotated
  have hscrambled := (UInt64.xor_right_inj _).mp hxor
  exact UInt32.toUInt64_inj.mp (mul_injective prime1_mul_inverse hscrambled)

/-- The mixer of eight bytes takes every value, each on exactly one key. -/
theorem qword_bijective : Function.Bijective qword :=
  avalanche_bijective.comp (qwordFold_bijective_lane (prime5 + 8))

end KeyHash.Mix
