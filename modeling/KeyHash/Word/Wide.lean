/-! # 128-bit integers

Unsigned and signed integers of 16 bytes. Both are bit vectors of width 128; a signed integer stands
for its bits in two's complement. An unsigned one is put together from two 64-bit halves by
`ofHalves` and taken apart again by `low` and `high`. -/

namespace KeyHash

/-- An unsigned integer of 128 bits. -/
structure UInt128 where
  /-- The bits of the integer. -/
  toBitVec : BitVec 128
  deriving DecidableEq

/-- A signed integer of 128 bits in two's complement. -/
structure Int128 where
  /-- The bits of the integer. -/
  toBitVec : BitVec 128
  deriving DecidableEq

namespace UInt128

/-- The integer modulo `2 ^ 128`. -/
def ofNat (n : Nat) : UInt128 := ⟨BitVec.ofNat 128 n⟩

/-- The number that the integer stands for. -/
def toNat (x : UInt128) : Nat := x.toBitVec.toNat

/-- The lower 64 bits. -/
def low (x : UInt128) : UInt64 := UInt64.ofBitVec (x.toBitVec.setWidth 64)

/-- The upper 64 bits. -/
def high (x : UInt128) : UInt64 := UInt64.ofBitVec ((x.toBitVec >>> 64).setWidth 64)

/-- The integer whose lower and upper 64 bits are given. -/
def ofHalves (low high : UInt64) : UInt128 :=
  ⟨low.toBitVec.setWidth 128 ||| high.toBitVec.setWidth 128 <<< 64⟩

/-- An integer of two words stands for a number below `2 ^ 128`. -/
theorem toNat_lt (x : UInt128) : x.toNat < UInt64.size * UInt64.size := x.toBitVec.isLt

/-- The lower half is what is left modulo `2 ^ 64`. -/
theorem toNat_low (x : UInt128) : x.low.toNat = x.toNat % UInt64.size := by
  simp [low, toNat]

/-- The upper half is how often `2 ^ 64` goes into the number. -/
theorem toNat_high (x : UInt128) : x.high.toNat = x.toNat / UInt64.size := by
  have hlt := x.toNat_lt
  simp only [toNat] at hlt
  simp only [high, toNat, UInt64.toNat_ofBitVec, BitVec.toNat_setWidth, BitVec.toNat_ushiftRight,
    Nat.shiftRight_eq_div_pow]
  simp only [UInt64.size] at hlt ⊢
  omega

/-- The lower half is the first of the halves. -/
@[simp] theorem low_ofHalves (l h : UInt64) : (ofHalves l h).low = l := by
  apply UInt64.toBitVec_inj.mp
  apply BitVec.eq_of_getLsbD_eq
  intro i hi
  simp [low, ofHalves, hi]

/-- The upper half is the second of the halves. -/
@[simp] theorem high_ofHalves (l h : UInt64) : (ofHalves l h).high = h := by
  apply UInt64.toBitVec_inj.mp
  apply BitVec.eq_of_getLsbD_eq
  intro i hi
  simp [high, ofHalves, hi, show 64 + i < 128 by omega, show ¬ 64 + i < 64 by omega]

/-- An integer is put together from its own halves. -/
@[simp] theorem ofHalves_low_high (x : UInt128) : ofHalves x.low x.high = x := by
  obtain ⟨v⟩ := x
  simp only [ofHalves, low, high, mk.injEq]
  apply BitVec.eq_of_getLsbD_eq
  intro i hi
  by_cases h : i < 64
  · simp [h, hi]
  · simp [h, hi, show i - 64 < 64 by omega, show 64 + (i - 64) = i by omega]

end UInt128

namespace Int128

/-- The integer modulo `2 ^ 128`. -/
def ofInt (i : Int) : Int128 := ⟨BitVec.ofInt 128 i⟩

/-- The number that the integer stands for. -/
def toInt (x : Int128) : Int := x.toBitVec.toInt

/-- The unsigned integer of the same bits. -/
def toUInt128 (x : Int128) : UInt128 := ⟨x.toBitVec⟩

end Int128

end KeyHash
