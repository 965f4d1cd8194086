import KeyHash.Word.Wide
import Mathlib.Data.FinEnum
import Mathlib.SetTheory.Cardinal.Finite

/-! # Integers of two words

An integer of 128 bits and the pair of its halves say the same, so there are as many such integers
as pairs of words. -/

namespace KeyHash

namespace UInt128

/-- Integers of two words that stand for the same number are the same. -/
theorem toNat_inj {x y : UInt128} : x.toNat = y.toNat ↔ x = y := by
  obtain ⟨v⟩ := x
  obtain ⟨w⟩ := y
  simp only [toNat, mk.injEq, BitVec.toNat_inj]

/-- Numbers are taken modulo `2 ^ 128`. -/
theorem toNat_ofNat (n : Nat) : (ofNat n).toNat = n % 2 ^ 128 := BitVec.toNat_ofNat n 128

/-- An integer is made again from the number that it stands for. -/
@[simp] theorem ofNat_toNat (x : UInt128) : ofNat x.toNat = x := by
  apply toNat_inj.mp
  exact (toNat_ofNat x.toNat).trans (Nat.mod_eq_of_lt x.toNat_lt)

/-- Integers that agree in both halves are the same. -/
theorem ext_halves {x y : UInt128} (hlow : x.low = y.low) (hhigh : x.high = y.high) : x = y := by
  rw [← ofHalves_low_high x, hlow, hhigh, ofHalves_low_high]

/-- The integers of two words as pairs of words. -/
def halvesEquiv : UInt128 ≃ UInt64 × UInt64 where
  toFun x := (x.low, x.high)
  invFun p := ofHalves p.1 p.2
  left_inv := ofHalves_low_high
  right_inv p := Prod.ext (low_ofHalves p.1 p.2) (high_ofHalves p.1 p.2)

end UInt128

/-! ## How many there are -/

/-- There are `2 ^ 64` words. -/
theorem card_uint64 : Nat.card UInt64 = 2 ^ 64 :=
  (Nat.card_congr FinEnum.equiv).trans (Nat.card_fin _)

/-- There are `2 ^ 128` integers of two words, as many as pairs of words. -/
theorem card_uint128 : Nat.card UInt128 = 2 ^ 128 := by
  rw [Nat.card_congr UInt128.halvesEquiv, Nat.card_prod, card_uint64, ← Nat.pow_add]

end KeyHash
