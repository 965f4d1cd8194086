import KeyHash.Complex.Packing
import KeyHash.Proofs.Word.SideBySide

/-! # Taking packed complex numbers apart

A packed complex number keeps both of its components whole: its lower half is the real and its upper
half the imaginary one. So every word of the right width is the packing of exactly one complex
number, and the bytes of a packed number are those of its components, one after the other. All this
comes from `toBitVec_packed32` and `toBitVec_packed64`, by which a packed number is the imaginary
component put after the real one. -/

namespace KeyHash.Complex

/-! ## Two components in one word -/

/-- The complex number whose components have the halves of a word for their bits. -/
def unpacked32 (x : UInt64) : Complex Binary32 := ⟨⟨x.toUInt32⟩, ⟨(x >>> 32).toUInt32⟩⟩

/-- The packed number is the imaginary component put after the real one. -/
theorem toBitVec_packed32 (z : Complex Binary32) :
    z.packed32.toBitVec = z.im.bits.toBitVec ++ z.re.bits.toBitVec :=
  setWidth_or_shiftLeft z.re.bits.toBitVec z.im.bits.toBitVec

/-- The lower half of the packed number is its real component. -/
theorem lower_packed32 (z : Complex Binary32) : z.packed32.toUInt32 = z.re.bits := by
  apply UInt32.toBitVec_inj.mp
  rw [UInt64.toBitVec_toUInt32, toBitVec_packed32]
  exact BitVec.setWidth_append_eq_right

/-- The upper half of the packed number is its imaginary component. -/
theorem upper_packed32 (z : Complex Binary32) : (z.packed32 >>> 32).toUInt32 = z.im.bits := by
  have hupper : (z.packed32 >>> 32).toUInt32.toBitVec = z.packed32.toBitVec.extractLsb' 32 32 := rfl
  apply UInt32.toBitVec_inj.mp
  rw [hupper, toBitVec_packed32]
  exact BitVec.extractLsb'_append_eq_left

/-- The components are found again in the packed number. -/
theorem unpacked32_packed32 (z : Complex Binary32) : unpacked32 z.packed32 = z := by
  rw [unpacked32, lower_packed32, upper_packed32]

/-- Every number of eight bytes packs the components that are found in it. -/
theorem packed32_unpacked32 (x : UInt64) : (unpacked32 x).packed32 = x := by
  have hre : (unpacked32 x).re.bits.toBitVec = x.toBitVec.extractLsb' 0 32 := rfl
  have him : (unpacked32 x).im.bits.toBitVec = x.toBitVec.extractLsb' 32 32 := rfl
  apply UInt64.toBitVec_inj.mp
  rw [toBitVec_packed32, hre, him, BitVec.extractLsb'_append_extractLsb']

/-! ## Two components in two words -/

/-- The complex number whose components have the halves of an integer of two words for their
bits. -/
def unpacked64 (x : UInt128) : Complex Binary64 := ⟨⟨x.low⟩, ⟨x.high⟩⟩

/-- The packed number is the imaginary component put after the real one. -/
theorem toBitVec_packed64 (z : Complex Binary64) :
    z.packed64.toBitVec = z.im.bits.toBitVec ++ z.re.bits.toBitVec :=
  setWidth_or_shiftLeft z.re.bits.toBitVec z.im.bits.toBitVec

/-- The components are found again in the packed integer of two words. -/
theorem unpacked64_packed64 (z : Complex Binary64) : unpacked64 z.packed64 = z := by
  rw [unpacked64, packed64, UInt128.low_ofHalves, UInt128.high_ofHalves]

/-- Every integer of two words packs the components that are found in it. -/
theorem packed64_unpacked64 (x : UInt128) : (unpacked64 x).packed64 = x := x.ofHalves_low_high

/-! ## In memory -/

/-- The bytes of a packed number are those of its components. -/
theorem ofNat_toNat_packed32 (z : Complex Binary32) :
    LittleEndian.ofNat 8 z.packed32.toNat =
      LittleEndian.ofNat 4 z.re.bits.toNat ++ LittleEndian.ofNat 4 z.im.bits.toNat := by
  rw [← UInt64.toNat_toBitVec, toBitVec_packed32]
  exact LittleEndian.ofNat_toNat_append (m := 4) (n := 4) _ _

/-- The bytes of a packed number are those of its components. -/
theorem ofNat_toNat_packed64 (z : Complex Binary64) :
    LittleEndian.ofNat 16 z.packed64.toNat =
      LittleEndian.ofNat 8 z.re.bits.toNat ++ LittleEndian.ofNat 8 z.im.bits.toNat := by
  rw [UInt128.toNat, toBitVec_packed64]
  exact LittleEndian.ofNat_toNat_append (m := 8) (n := 8) _ _

/-- Whatever the bits of two components of four or of eight bytes are, the packed complex number has
them side by side, the real component in front of the imaginary one in memory. -/
theorem packed_sideBySide :
    SideBySide 4 (fun re im => (packed32 ⟨⟨.ofBitVec re⟩, ⟨.ofBitVec im⟩⟩).toBitVec) ∧
      SideBySide 8 (fun re im => (packed64 ⟨⟨.ofBitVec re⟩, ⟨.ofBitVec im⟩⟩).toBitVec) := by
  constructor
  · apply SideBySide.of_eq_append
    intro re im
    exact toBitVec_packed32 ⟨⟨.ofBitVec re⟩, ⟨.ofBitVec im⟩⟩
  · apply SideBySide.of_eq_append
    intro re im
    exact toBitVec_packed64 ⟨⟨.ofBitVec re⟩, ⟨.ofBitVec im⟩⟩

/-- A signaling pattern that stands for no number is kept as it is beside a quiet one. -/
example : packed32 ⟨⟨0x7fa00001⟩, ⟨0xffc00002⟩⟩ = 0xffc000027fa00001 := by decide

end KeyHash.Complex
