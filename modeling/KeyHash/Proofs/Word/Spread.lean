import KeyHash.Word.Rotation
import Mathlib.Logic.Function.Basic

/-! # Exclusive or with two rotated copies

A word is spread out by an exclusive or with two rotated copies of itself. Doing this twice is doing
it once with both rotations doubled (`spread_spread`), because what is rotated once by each of the
two comes up twice and drops out. After three doublings the rotations by 49 and 24 have become one
by 8 and one by a multiple of 64, which takes the word itself away: eight times is a mere rotation,
so that nothing is lost (`spread_injective`). -/

namespace KeyHash

/-! ## Rotations of bit vectors -/

variable {w : Nat}

/-- Rotations one after the other are one rotation. -/
theorem rotateLeft_add (x : BitVec w) (m n : Nat) :
    x.rotateLeft (m + n) = (x.rotateLeft m).rotateLeft n := by
  apply BitVec.eq_of_getMsbD_eq
  intro i hi
  have hlt : (n + i) % w < w := Nat.mod_lt _ (by omega)
  simp only [BitVec.getMsbD_rotateLeft, hi, hlt, decide_true, Bool.true_and]
  rw [Nat.add_mod_mod, Nat.add_assoc]

/-- Rotation goes through exclusive or. -/
theorem rotateLeft_xor (x y : BitVec w) (n : Nat) :
    (x ^^^ y).rotateLeft n = x.rotateLeft n ^^^ y.rotateLeft n := by
  apply BitVec.eq_of_getMsbD_eq
  intro i hi
  simp [BitVec.getMsbD_rotateLeft, hi]

/-- Full turns change nothing. -/
theorem rotateLeft_mul (x : BitVec w) (n : Nat) : x.rotateLeft (w * n) = x := by
  apply BitVec.eq_of_getMsbD_eq
  intro i hi
  simp only [BitVec.getMsbD_rotateLeft, hi, decide_true, Bool.true_and]
  rw [Nat.mul_add_mod, Nat.mod_eq_of_lt hi]

/-! ## Spreading -/

/-- The exclusive or of a bit vector with two rotated copies. -/
def spread (j k : Nat) (x : BitVec w) : BitVec w := x ^^^ x.rotateLeft j ^^^ x.rotateLeft k

/-- Spreading twice doubles the rotations. -/
theorem spread_spread (j k : Nat) (x : BitVec w) :
    spread j k (spread j k x) = spread (j + j) (k + k) x := by
  have hmixed : (x.rotateLeft j).rotateLeft k = (x.rotateLeft k).rotateLeft j := by
    rw [← rotateLeft_add, ← rotateLeft_add, Nat.add_comm]
  simp only [spread, rotateLeft_xor, rotateLeft_add, hmixed]
  generalize x.rotateLeft j = a
  generalize x.rotateLeft k = b
  generalize a.rotateLeft j = a'
  generalize b.rotateLeft k = b'
  generalize b.rotateLeft j = c
  -- what was rotated once, and what was rotated by both, comes twice
  calc
    x ^^^ a ^^^ b ^^^ (a ^^^ a' ^^^ c) ^^^ (b ^^^ c ^^^ b')
      = x ^^^ a' ^^^ b' ^^^ ((a ^^^ a) ^^^ (b ^^^ b) ^^^ (c ^^^ c)) := by ac_rfl
    _ = x ^^^ a' ^^^ b' := by simp

/-- What is spread out into the same with some rotations is so with twice these rotations. -/
theorem spread_eq_double {j k : Nat} {x y : BitVec w} (h : spread j k x = spread j k y) :
    spread (j + j) (k + k) x = spread (j + j) (k + k) y := by
  rw [← spread_spread, h, spread_spread]

/-- Three doublings of 49 and 24 leave a rotation by 8: of the other only full turns are left. -/
theorem spread_eq_rotateLeft (x : BitVec 64) : spread 392 192 x = x.rotateLeft 8 := by
  have hturns : x.rotateLeft 192 = x := rotateLeft_mul x 3
  have hrest : x.rotateLeft 392 = x.rotateLeft 8 := by
    rw [rotateLeft_add x 384 8, rotateLeft_mul x 6]
  rw [spread, hturns, hrest, BitVec.xor_comm, ← BitVec.xor_assoc, BitVec.xor_self, BitVec.zero_xor]

/-- A word can be told from its spreading by 49 and 24. -/
theorem spread_injective : Function.Injective (spread 49 24 : BitVec 64 → BitVec 64) := by
  intro x y h
  have hrotated : x.rotateLeft 8 = y.rotateLeft 8 := by
    have hdoubled := spread_eq_double (spread_eq_double (spread_eq_double h))
    simpa only [Nat.reduceAdd, spread_eq_rotateLeft] using hdoubled
  calc
    x = (x.rotateLeft 8).rotateLeft 56 := by rw [← rotateLeft_add]; exact (rotateLeft_mul x 1).symm
    _ = (y.rotateLeft 8).rotateLeft 56 := by rw [hrotated]
    _ = y := by rw [← rotateLeft_add]; exact rotateLeft_mul y 1

end KeyHash
