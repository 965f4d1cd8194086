import KeyHash.Word.Rotation

/-! # Permutations of 64-bit words

Three operations scramble a word without losing any of it: a rotation, an exclusive or with a
shifted copy of the word, and a multiplication by an odd number. Each has an inverse that is given
here by a formula, and each inverse is shown to undo its operation in both orders. -/

namespace KeyHash

/-! ## Rotations -/

/-- Rotating on by the remaining bits brings a word back to where it was. -/
theorem rotateLeft_rotateLeft (x j k : UInt64)
    (h : 0 < j.toNat ∧ 0 < k.toNat ∧ j.toNat + k.toNat = 64) :
    rotateLeft (rotateLeft x j) k = x := by
  obtain ⟨hj, hk, hsum⟩ := h
  apply UInt64.toBitVec_inj.mp
  rw [toBitVec_rotateLeft _ _ hk (by omega), toBitVec_rotateLeft _ _ hj (by omega)]
  apply BitVec.eq_of_getLsbD_eq
  intro i hi
  have hjmod : j.toNat % 64 = j.toNat := Nat.mod_eq_of_lt (by omega)
  have hkmod : k.toNat % 64 = k.toNat := Nat.mod_eq_of_lt (by omega)
  have hjrest : 64 - j.toNat = k.toNat := by omega
  have hkrest : 64 - k.toNat = j.toNat := by omega
  rw [BitVec.getLsbD_rotateLeft, BitVec.getLsbD_rotateLeft, BitVec.getLsbD_rotateLeft, hjmod, hkmod,
    hjrest, hkrest]
  -- a bit below `k` was moved up and is brought back from there; any other was wrapped around
  by_cases hlow : i < k.toNat
  · have habove : ¬ j.toNat + i < j.toNat := by omega
    have hback : j.toNat + i - j.toNat = i := by omega
    simp [hlow, hi, habove, hback, show j.toNat + i < 64 by omega]
  · have hbelow : i - k.toNat < j.toNat := by omega
    have hback : k.toNat + (i - k.toNat) = i := by omega
    simp [hlow, hi, hbelow, hback]

/-- A word can be told from its rotation. -/
theorem rotateLeft_injective {x y j : UInt64} (k : UInt64)
    (hrest : 0 < j.toNat ∧ 0 < k.toNat ∧ j.toNat + k.toNat = 64)
    (h : rotateLeft x j = rotateLeft y j) : x = y := by
  have hback := congrArg (rotateLeft · k) h
  simpa only [rotateLeft_rotateLeft _ j k hrest] using hback

/-! ## Exclusive or with a shifted copy -/

/-- The word whose exclusive or with its own copy shifted right by `k` is the given one, for `k`
between 22 and 63. -/
def undoXorShift (y k : UInt64) : UInt64 := y ^^^ ((y ^^^ (y >>> k)) >>> k)

/-- Three shifts by a third of the width or more leave nothing of a word. -/
theorem shiftRight_three_times (x k : UInt64) (hge : 22 ≤ k.toNat) (hlt : k.toNat < 64) :
    x >>> k >>> k >>> k = 0 := by
  apply UInt64.toNat_inj.mp
  simp only [UInt64.toNat_shiftRight, Nat.mod_eq_of_lt hlt, ← Nat.shiftRight_add]
  have hx : x.toNat < 2 ^ (k.toNat + k.toNat + k.toNat) :=
    Nat.lt_of_lt_of_le x.toNat_lt (Nat.pow_le_pow_right (by decide) (by omega))
  exact (Nat.shiftRight_eq_div_pow _ _).trans (Nat.div_eq_of_lt hx)

/-- A word is told by its exclusive or with itself shifted, as three such shifts leave nothing of
it. -/
theorem undoXorShift_xorShift (x k : UInt64) (hge : 22 ≤ k.toNat) (hlt : k.toNat < 64) :
    undoXorShift (x ^^^ (x >>> k)) k = x := by
  have hzero := shiftRight_three_times x k hge hlt
  simp only [undoXorShift, UInt64.shiftRight_xor, hzero]
  generalize x >>> k = a
  generalize a >>> k = b
  -- every copy but the unshifted one comes twice
  calc
    x ^^^ a ^^^ (a ^^^ b ^^^ (b ^^^ 0)) = x ^^^ ((a ^^^ a) ^^^ (b ^^^ b)) := by
      rw [UInt64.xor_zero]; ac_rfl
    _ = x := by simp

/-- Every word is the exclusive or of some word with itself shifted. -/
theorem xorShift_undoXorShift (y k : UInt64) (hge : 22 ≤ k.toNat) (hlt : k.toNat < 64) :
    undoXorShift y k ^^^ (undoXorShift y k >>> k) = y := by
  have hzero := shiftRight_three_times y k hge hlt
  simp only [undoXorShift, UInt64.shiftRight_xor, hzero]
  generalize y >>> k = a
  generalize a >>> k = b
  calc
    y ^^^ (a ^^^ b) ^^^ (a ^^^ (b ^^^ 0)) = y ^^^ ((a ^^^ a) ^^^ (b ^^^ b)) := by
      rw [UInt64.xor_zero]; ac_rfl
    _ = y := by simp

/-- A word can be told from its exclusive or with a shifted copy. -/
theorem xorShift_injective {x y : UInt64} (k : UInt64) (hge : 22 ≤ k.toNat) (hlt : k.toNat < 64)
    (h : x ^^^ (x >>> k) = y ^^^ (y >>> k)) : x = y := by
  have hback := congrArg (undoXorShift · k) h
  simpa only [undoXorShift_xorShift _ k hge hlt] using hback

/-! ## Multiplication -/

/-- A multiplication is undone by a multiplication with an inverse of the multiplier. -/
theorem mul_mul_of_mul_eq_one (x : UInt64) {p q : UInt64} (h : p * q = 1) : x * p * q = x := by
  rw [UInt64.mul_assoc, h, UInt64.mul_one]

/-- The inverse and the multiplier may change places. -/
theorem mul_mul_of_mul_eq_one_left (x : UInt64) {p q : UInt64} (h : p * q = 1) : x * q * p = x :=
  mul_mul_of_mul_eq_one x ((UInt64.mul_comm q p).trans h)

/-- A word can be told from its product with a multiplier that has an inverse. -/
theorem mul_injective {x y p q : UInt64} (hinverse : p * q = 1) (h : x * p = y * p) : x = y := by
  have hback := congrArg (· * q) h
  simpa only [mul_mul_of_mul_eq_one _ hinverse] using hback

end KeyHash
