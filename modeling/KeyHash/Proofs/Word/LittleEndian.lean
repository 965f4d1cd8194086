import KeyHash.Word.LittleEndian
import KeyHash.Word.Wide
import Mathlib.Algebra.Order.Ring.Nat

/-! # Numbers and their little-endian bytes

Sequences of `n` bytes stand for the numbers below `256 ^ n`, each for exactly one of them. The
bytes of a wide number fall apart into those of its lower and of its upper part, and those of an
integer in two's complement are those of its bit vector. A word is put together from its bytes by
shifts (`word_cons`, `word_append`), and up to eight bytes can be read off it (`eq_of_word_eq`). -/

namespace KeyHash.LittleEndian

/-- Reading in base 256, with the power written out. -/
theorem toNat_ofNat_pow (n x : Nat) : toNat (ofNat n x) = x % 256 ^ n := by
  rw [toNat_ofNat, Nat.one_shiftLeft, Nat.pow_mul]

/-- What is written with `n` bytes is less than `256 ^ n`. -/
theorem toNat_lt (bs : List UInt8) : toNat bs < 256 ^ bs.length := by
  have hself : toNat (ofNat bs.length (toNat bs)) = toNat bs := by rw [ofNat_toNat]
  rw [toNat_ofNat_pow] at hself
  rw [← hself]
  exact Nat.mod_lt _ (Nat.pow_pos (by decide))

/-- Sequences of the same length that stand for the same number are the same. -/
theorem eq_of_toNat_eq {bs cs : List UInt8} (hlength : bs.length = cs.length)
    (h : toNat bs = toNat cs) : bs = cs := by
  rw [← ofNat_toNat bs, hlength, h, ofNat_toNat]

/-- The number of two sequences, one after the other. -/
theorem toNat_append (bs cs : List UInt8) :
    toNat (bs ++ cs) = toNat bs + 256 ^ bs.length * toNat cs := by
  induction bs with
  | nil => simp [toNat]
  | cons b bs ih =>
    rw [List.cons_append, toNat, toNat, ih, List.length_cons, Nat.pow_succ', Nat.mul_add,
      Nat.mul_assoc, Nat.add_assoc]

/-- The bytes of a number are those of its lower part, followed by those of its upper part. -/
theorem ofNat_add (m n x : Nat) : ofNat (m + n) x = ofNat m x ++ ofNat n (x / 256 ^ m) := by
  induction m generalizing x with
  | zero => simp [ofNat]
  | succ m ih =>
    rw [Nat.succ_add, ofNat, ofNat, ih, List.cons_append, Nat.div_div_eq_div_mul, Nat.pow_succ']

/-- Writing at a width looks at the lower part of a number only. -/
theorem ofNat_mod (n x : Nat) : ofNat n (x % 256 ^ n) = ofNat n x := by
  apply eq_of_toNat_eq
  · rw [length_ofNat, length_ofNat]
  · rw [toNat_ofNat_pow, toNat_ofNat_pow, Nat.mod_mod]

/-- The bytes of an integer in two's complement are those of its bit vector as a number. -/
theorem ofInt_toInt (n : Nat) (x : BitVec (8 * n)) : ofInt n x.toInt = ofNat n x.toNat := by
  have hpow : 1 <<< (8 * n) = 2 ^ (8 * n) := Nat.one_shiftLeft _
  -- the signed and the unsigned reading differ by a multiple of the modulus
  have hmod : x.toInt % (2 ^ (8 * n) : Nat) = x.toNat := by
    rw [BitVec.toInt_eq_toNat_bmod, Int.bmod_emod, ← Int.natCast_emod, Nat.mod_eq_of_lt x.isLt]
  rw [ofInt, hpow, hmod, Int.toNat_natCast]

/-- The bytes of a bit vector put after another one follow those of the other one. -/
theorem ofNat_toNat_append {m n : Nat} (x : BitVec (8 * m)) (y : BitVec (8 * n)) :
    ofNat (m + n) (y ++ x).toNat = ofNat m x.toNat ++ ofNat n y.toNat := by
  have hpow : 256 ^ m = 2 ^ (8 * m) := (Nat.pow_mul 2 8 m).symm
  have hlt : x.toNat < 256 ^ m := hpow ▸ x.isLt
  have hsum : (y ++ x).toNat = 256 ^ m * y.toNat + x.toNat := by
    rw [BitVec.toNat_append, ← Nat.shiftLeft_add_eq_or_of_lt x.isLt, Nat.shiftLeft_eq, hpow,
      Nat.mul_comm]
  have hlow : (y ++ x).toNat % 256 ^ m = x.toNat := by
    rw [hsum, Nat.mul_add_mod, Nat.mod_eq_of_lt hlt]
  have hhigh : (y ++ x).toNat / 256 ^ m = y.toNat := by
    rw [hsum, Nat.mul_add_div (Nat.pow_pos (by decide)), Nat.div_eq_of_lt hlt, Nat.add_zero]
  rw [ofNat_add, ← ofNat_mod m, hlow, hhigh]

/-- A word is read back from its own eight bytes. -/
theorem word_ofNat_toNat (x : UInt64) : word (ofNat 8 x.toNat) = x := by
  rw [word_eq_ofNat_toNat, toNat_ofNat_pow, Nat.mod_eq_of_lt (by simpa using x.toNat_lt),
    UInt64.ofNat_toNat]

/-- Half a word is read back from its own four bytes. -/
theorem word_ofNat_toNat_dword (x : UInt32) : word (ofNat 4 x.toNat) = x.toUInt64 := by
  rw [word_eq_ofNat_toNat, toNat_ofNat_pow, Nat.mod_eq_of_lt (by simpa using x.toNat_lt)]
  apply UInt64.toNat_inj.mp
  have hlt := x.toNat_lt
  simp only [UInt64.toNat_ofNat', UInt32.toNat_toUInt64]
  omega

/-- Sequences of the same length that fit into a word can be told apart by their words. -/
theorem eq_of_word_eq {bs cs : List UInt8} (hlength : bs.length = cs.length)
    (hfits : bs.length ≤ 8) (h : word bs = word cs) : bs = cs := by
  have hpow : 256 ^ bs.length ≤ 2 ^ 64 := Nat.pow_le_pow_right (n := 256) (by decide) hfits
  have hb : toNat bs < 2 ^ 64 := Nat.lt_of_lt_of_le (toNat_lt bs) hpow
  have hc : toNat cs < 2 ^ 64 := Nat.lt_of_lt_of_le (toNat_lt cs) (hlength ▸ hpow)
  rw [word_eq_ofNat_toNat, word_eq_ofNat_toNat] at h
  have hsame := congrArg UInt64.toNat h
  rw [UInt64.toNat_ofNat_of_lt' hb, UInt64.toNat_ofNat_of_lt' hc] at hsame
  exact eq_of_toNat_eq hlength hsame

/-- The word of a sequence with a byte put before it. -/
theorem word_cons (b : UInt8) (bs : List UInt8) :
    word (b :: bs) = (word bs <<< 8) ||| b.toUInt64 := by
  have hb : b.toNat < 2 ^ 8 := b.toNat_lt
  -- what the shift pushes out at the top is what the word has no room for
  have hshift : (word bs).toNat <<< 8 % 2 ^ 64 = ((word bs).toNat % 2 ^ 56) <<< 8 := by
    rw [Nat.shiftLeft_eq, Nat.shiftLeft_eq]
    omega
  apply UInt64.toNat_inj.mp
  simp only [UInt64.toNat_or, UInt64.toNat_shiftLeft, UInt8.toNat_toUInt64, UInt64.reduceToNat,
    Nat.reduceMod, hshift, ← Nat.shiftLeft_add_eq_or_of_lt hb]
  simp only [word, UInt64.toNat_add, UInt64.toNat_mul, UInt8.toNat_toUInt64, UInt64.reduceToNat,
    Nat.shiftLeft_eq]
  omega

/-- The word of four bytes, each moved to its place. -/
theorem word_four (a b c d : UInt8) :
    word [a, b, c, d] =
      (d.toUInt64 <<< 24) ||| (c.toUInt64 <<< 16) ||| (b.toUInt64 <<< 8) ||| a.toUInt64 := by
  have htwice (x : UInt64) : x <<< 8 <<< 8 = x <<< 16 :=
    (UInt64.shiftLeft_add_of_toNat_lt (by decide)).symm
  have hthrice (x : UInt64) : x <<< 16 <<< 8 = x <<< 24 :=
    (UInt64.shiftLeft_add_of_toNat_lt (by decide)).symm
  have hnil : word [] <<< 8 = 0 := by decide
  rw [word_cons, word_cons, word_cons, word_cons, hnil, UInt64.zero_or]
  simp only [UInt64.shiftLeft_or, htwice, hthrice]

/-- The word of a sequence with half a word put before it. -/
theorem word_append {bs : List UInt8} (hlength : bs.length = 4) (cs : List UInt8) :
    word (bs ++ cs) = word bs + (word cs <<< 32) := by
  have hmoved (n : Nat) : UInt64.ofNat (256 ^ 4 * n) = UInt64.ofNat n <<< 32 := by
    apply UInt64.toNat_inj.mp
    rw [UInt64.toNat_shiftLeft, UInt64.toNat_ofNat', UInt64.toNat_ofNat', Nat.shiftLeft_eq]
    simp only [UInt64.reduceToNat, Nat.reduceMod, Nat.reducePow]
    omega
  rw [word_eq_ofNat_toNat, word_eq_ofNat_toNat, word_eq_ofNat_toNat, toNat_append, hlength,
    UInt64.ofNat_add, hmoved]

/-- The bytes of an integer of sixteen bytes are those of its lower half, then of its upper half. -/
theorem ofNat_toNat_wide (x : UInt128) :
    ofNat 16 x.toNat = ofNat 8 x.low.toNat ++ ofNat 8 x.high.toNat := by
  have hsize : UInt64.size = 256 ^ 8 := by decide
  rw [ofNat_add 8 8, UInt128.toNat_low, UInt128.toNat_high, hsize, ofNat_mod]

end KeyHash.LittleEndian
