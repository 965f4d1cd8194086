import KeyHash.Proofs.Word.LittleEndian
import Mathlib.Logic.ExistsUnique

/-! # Two components in one word

Two components fit into a word of twice their width without touching each other: `y ++ x` has the
bits of `x` in its lower half and those of `y` in its upper half. `SideBySide` says what is expected
of a function that packs two components, down to the bytes in memory, and
`SideBySide.of_eq_append` that this is what putting one after the other does. -/

namespace KeyHash

variable {w : Nat}

/-! ## One bit vector after the other -/

/-- An inclusive or with a component moved up by its width puts it after the other one. -/
theorem setWidth_or_shiftLeft (x y : BitVec w) :
    x.setWidth (w + w) ||| y.setWidth (w + w) <<< w = y ++ x := by
  rw [BitVec.or_comm, ← BitVec.setWidth_append_eq_shiftLeft_setWidth_or, BitVec.setWidth_eq]

/-- Every word of twice the width is put together in exactly one way. -/
theorem existsUnique_append (z : BitVec (w + w)) : ∃! p : BitVec w × BitVec w, p.2 ++ p.1 = z := by
  refine ⟨(z.extractLsb' 0 w, z.extractLsb' w w), BitVec.extractLsb'_append_extractLsb', ?_⟩
  rintro ⟨x, y⟩ rfl
  rw [BitVec.extractLsb'_append_eq_right, BitVec.extractLsb'_append_eq_left]

/-- Components that leave the other half empty have no bit in common. -/
theorem zero_append_and_append_zero (x y : BitVec w) : (0#w ++ x) &&& (y ++ 0#w) = 0#(w + w) := by
  rw [BitVec.and_append, BitVec.zero_and, BitVec.and_zero, BitVec.zero_append_zero]

/-- A turn by half the width exchanges the halves. -/
theorem rotateLeft_append (x y : BitVec w) : (y ++ x).rotateLeft w = x ++ y := by
  apply BitVec.eq_of_getLsbD_eq
  intro i hi
  have hturn : w % (w + w) = w := Nat.mod_eq_of_lt (by omega)
  rw [BitVec.getLsbD_rotateLeft, hturn]
  -- a bit of the lower half comes from the upper one, and the other way round
  by_cases hlow : i < w
  · have hup : ¬ w + w - w + i < w := by omega
    have hback : w + w - w + i - w = i := by omega
    rw [decide_eq_true hlow, cond_true, BitVec.getLsbD_append, if_neg hup, hback,
      BitVec.getLsbD_append, if_pos hlow]
  · have hdown : i - w < w := by omega
    rw [decide_eq_false hlow, cond_false, decide_eq_true hi, Bool.true_and, BitVec.getLsbD_append,
      if_pos hdown, BitVec.getLsbD_append, if_neg hlow]

/-! ## Packing -/

/-- Two components of `n` bytes keep their bits when they are packed into a word, the first in the
lower and the second in the upper half, as they would lie one after the other in memory. -/
structure SideBySide (n : Nat)
    (pack : BitVec (8 * n) → BitVec (8 * n) → BitVec (8 * n + 8 * n)) : Prop where
  /-- The bytes of the word are those of the first component, followed by those of the second. -/
  bytes : ∀ x y, LittleEndian.ofNat (n + n) (pack x y).toNat =
    LittleEndian.ofNat n x.toNat ++ LittleEndian.ofNat n y.toNat
  /-- Every word is that of exactly one pair of components. -/
  existsUnique : ∀ z, ∃! p : BitVec (8 * n) × BitVec (8 * n), pack p.1 p.2 = z
  /-- Every bit of the word is the bit of one component, whatever the other one is. -/
  getLsbD : ∀ x y i,
    (pack x y).getLsbD i = if i < 8 * n then x.getLsbD i else y.getLsbD (i - 8 * n)
  /-- No bit belongs to both components. -/
  and_eq_zero : ∀ x y, pack x 0 &&& pack 0 y = 0
  /-- Exchanged components turn the word by half its width, so that its halves are exchanged. -/
  swap : ∀ x y, pack y x = (pack x y).rotateLeft (8 * n)

/-- Putting the second component after the first keeps them side by side. -/
theorem SideBySide.of_eq_append {n : Nat}
    {pack : BitVec (8 * n) → BitVec (8 * n) → BitVec (8 * n + 8 * n)}
    (h : ∀ x y, pack x y = y ++ x) : SideBySide n pack where
  bytes x y := by rw [h, LittleEndian.ofNat_toNat_append]
  existsUnique z := by
    simp only [h]
    exact existsUnique_append z
  getLsbD x y i := by rw [h, BitVec.getLsbD_append]
  and_eq_zero x y := by
    rw [h, h]
    exact zero_append_and_append_zero x y
  swap x y := by rw [h, h, rotateLeft_append]

end KeyHash
