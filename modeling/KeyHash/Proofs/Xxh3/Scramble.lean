import KeyHash.Proofs.Word.Permutation
import KeyHash.Proofs.Word.Spread
import KeyHash.Xxh3.Short

/-! # Undoing the scrambling of four to eight bytes

For a fixed length the scrambling of a word loses nothing: it spreads the word out, multiplies twice
by an odd number, and in between and at the end combines the word with its own upper bits. Where the
length is added to these upper bits it is too small to reach the bits that they were taken from, so
that they can be read off the result. -/

namespace KeyHash.Xxh3

/-- The inverse of the multiplier for inputs of 4 to 8 bytes. -/
def pairMultiplierInverse : UInt64 := 192419422752744621

/-- The multiplier and its inverse make one, modulo `2 ^ 64`. -/
theorem pairMultiplier_mul_inverse : pairMultiplier * pairMultiplierInverse = 1 := by decide

/-- A word can be told from its exclusive or with the two rotated copies. -/
theorem rotations_injective :
    Function.Injective fun h : UInt64 => h ^^^ rotateLeft h 49 ^^^ rotateLeft h 24 := by
  intro x y h
  have hspread (z : UInt64) :
      (z ^^^ rotateLeft z 49 ^^^ rotateLeft z 24).toBitVec = spread 49 24 z.toBitVec := by
    rw [UInt64.toBitVec_xor, UInt64.toBitVec_xor, toBitVec_rotateLeft z 49 (by decide) (by decide),
      toBitVec_rotateLeft z 24 (by decide) (by decide)]
    rfl
  apply UInt64.toBitVec_inj.mp
  apply spread_injective
  rw [← hspread, ← hspread]
  exact congrArg UInt64.toBitVec h

/-- The upper bits with a small number added to them stay below themselves. -/
theorem shiftRight_shiftedSum {n : UInt64} (hn : n.toNat ≤ 8) (h : UInt64) :
    ((h >>> 35) + n) >>> 35 = 0 := by
  have hh := h.toNat_lt
  apply UInt64.toNat_inj.mp
  simp only [UInt64.toNat_shiftRight, UInt64.toNat_add, UInt64.reduceToNat, Nat.reduceMod,
    Nat.shiftRight_eq_div_pow]
  omega

/-- A word can be told from its exclusive or with its upper bits, if a small number is added to
them. -/
theorem shiftedSum_injective {n : UInt64} (hn : n.toNat ≤ 8) :
    Function.Injective fun h : UInt64 => h ^^^ ((h >>> 35) + n) := by
  intro x y h
  have hupper (z : UInt64) : (z ^^^ ((z >>> 35) + n)) >>> 35 = z >>> 35 := by
    rw [UInt64.shiftRight_xor, shiftRight_shiftedSum hn, UInt64.xor_zero]
  -- the upper bits are the same, and with them all that was combined with the words
  have hsame : x >>> 35 = y >>> 35 :=
    calc
      x >>> 35 = (x ^^^ ((x >>> 35) + n)) >>> 35 := (hupper x).symm
      _ = (y ^^^ ((y >>> 35) + n)) >>> 35 := congrArg (fun z : UInt64 => z >>> 35) h
      _ = y >>> 35 := hupper y
  simp only [hsame] at h
  exact (UInt64.xor_left_inj _).mp h

/-- A word of an input of at most eight bytes can be told from what it is scrambled into. -/
theorem scramblePair_injective {n : UInt64} (hn : n.toNat ≤ 8) :
    Function.Injective (scramblePair n) := by
  intro x y h
  have hproduct := xorShift_injective 28 (by decide) (by decide) h
  have hsum := mul_injective pairMultiplier_mul_inverse hproduct
  have hproduct' := shiftedSum_injective hn hsum
  exact rotations_injective (mul_injective pairMultiplier_mul_inverse hproduct')

end KeyHash.Xxh3
