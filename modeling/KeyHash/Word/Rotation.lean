/-! # Rotation of 64-bit words

A left rotation moves every bit of a word up and brings the bits that fall off the top back at the
bottom, so unlike a shift it loses nothing. `toBitVec_rotateLeft` says that the two shifts used here
are a rotation of the underlying bit vector. -/

namespace KeyHash

/-- The word rotated left by `k` bits, for `0 < k < 64`. -/
def rotateLeft (x k : UInt64) : UInt64 := (x <<< k) ||| (x >>> (64 - k))

/-- As a bit vector, the word is rotated. -/
theorem toBitVec_rotateLeft (x k : UInt64) (hpos : 0 < k.toNat) (hlt : k.toNat < 64) :
    (rotateLeft x k).toBitVec = x.toBitVec.rotateLeft k.toNat := by
  have hsub : (64 - k).toNat = 64 - k.toNat := by
    rw [UInt64.toNat_sub_of_le _ _ (by rw [UInt64.le_iff_toNat_le]; exact Nat.le_of_lt hlt)]
    rfl
  rw [BitVec.rotateLeft_def, Nat.mod_eq_of_lt hlt]
  apply BitVec.eq_of_toNat_eq
  simp only [rotateLeft, UInt64.toBitVec_or, BitVec.toNat_or, UInt64.toNat_toBitVec,
    UInt64.toNat_shiftLeft, UInt64.toNat_shiftRight, hsub, BitVec.toNat_shiftLeft,
    BitVec.toNat_ushiftRight, Nat.mod_eq_of_lt hlt,
    Nat.mod_eq_of_lt (show 64 - k.toNat < 64 by omega)]

end KeyHash
