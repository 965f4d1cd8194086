import KeyHash.Key.Content
import KeyHash.Proofs.Complex.Packing
import KeyHash.Proofs.Word.Wide

/-! # The bit pattern of a key

The bits of a key of fixed width are a number below the power of 256 that its width gives, and every
such number is the pattern of exactly one key (`ofPattern_pattern`, `pattern_ofPattern`). The
content of the key is its pattern in little-endian bytes, so a key and its content say the same. -/

namespace KeyHash

namespace FixedType

/-! ## Patterns -/

/-- The bytes that every key of the type occupies. -/
def width : FixedType → Nat
  | .uint8 | .int8 => 1
  | .uint16 | .int16 => 2
  | .uint32 | .int32 | .binary32 => 4
  | .uint64 | .int64 | .unsignedWord | .signedWord | .binary64 | .complex32 => 8
  | .uint128 | .int128 | .complex64 => 16

/-- The bits of a key as a number. -/
def pattern : (t : FixedType) → t.Key → Nat
  | .uint8, key => key.toNat
  | .int8, key => key.toUInt8.toNat
  | .uint16, key => key.toNat
  | .int16, key => key.toUInt16.toNat
  | .uint32, key => key.toNat
  | .int32, key => key.toUInt32.toNat
  | .uint64, key => key.toNat
  | .int64, key => key.toUInt64.toNat
  | .uint128, key => key.toNat
  | .int128, key => key.toUInt128.toNat
  | .unsignedWord, key => key.toNat
  | .signedWord, key => key.toUInt64.toNat
  | .binary32, key => key.bits.toNat
  | .binary64, key => key.bits.toNat
  | .complex32, key => key.packed32.toNat
  | .complex64, key => key.packed64.toNat

/-- The key whose bits are those of a number, as far as they fit. -/
def ofPattern : (t : FixedType) → Nat → t.Key
  | .uint8, n => UInt8.ofNat n
  | .int8, n => (UInt8.ofNat n).toInt8
  | .uint16, n => UInt16.ofNat n
  | .int16, n => (UInt16.ofNat n).toInt16
  | .uint32, n => UInt32.ofNat n
  | .int32, n => (UInt32.ofNat n).toInt32
  | .uint64, n => UInt64.ofNat n
  | .int64, n => (UInt64.ofNat n).toInt64
  | .uint128, n => UInt128.ofNat n
  | .int128, n => ⟨(UInt128.ofNat n).toBitVec⟩
  | .unsignedWord, n => UInt64.ofNat n
  | .signedWord, n => (UInt64.ofNat n).toInt64
  | .binary32, n => ⟨UInt32.ofNat n⟩
  | .binary64, n => ⟨UInt64.ofNat n⟩
  | .complex32, n => .unpacked32 (UInt64.ofNat n)
  | .complex64, n => .unpacked64 (UInt128.ofNat n)

/-- A key is found again from its pattern. -/
theorem ofPattern_pattern (t : FixedType) (key : t.Key) : t.ofPattern (t.pattern key) = key := by
  cases t with
  | uint8 | uint16 | uint32 | uint64 | uint128 | unsignedWord | binary32 | binary64
  | int8 | int16 | int32 | int64 | signedWord => simp [ofPattern, pattern]
  | int128 => simp [ofPattern, pattern, Int128.toUInt128]
  | complex32 => simp [ofPattern, pattern, Complex.unpacked32_packed32]
  | complex64 => simp [ofPattern, pattern, Complex.unpacked64_packed64]

/-- Every number is the pattern of a key, as far as it fits. -/
theorem pattern_ofPattern (t : FixedType) (n : Nat) :
    t.pattern (t.ofPattern n) = n % 256 ^ t.width := by
  cases t with
  | uint8 | uint16 | uint32 | uint64 | unsignedWord | binary32 | binary64
  | int8 | int16 | int32 | int64 | signedWord => simp [ofPattern, pattern, width]
  | uint128 | int128 => exact UInt128.toNat_ofNat n
  | complex32 => simp [ofPattern, pattern, width, Complex.packed32_unpacked32]
  | complex64 =>
    rw [pattern, ofPattern, Complex.packed64_unpacked64]
    exact UInt128.toNat_ofNat n

/-- The pattern of a key fits into the bytes of its type. -/
theorem pattern_lt (t : FixedType) (key : t.Key) : t.pattern key < 256 ^ t.width := by
  rw [← ofPattern_pattern t key, pattern_ofPattern]
  exact Nat.mod_lt _ (Nat.pow_pos (by decide))

/-! ## Contents -/

/-- The content of a key is its pattern in little-endian bytes. -/
theorem content_eq_ofNat (t : FixedType) (key : t.Key) :
    t.content key = LittleEndian.ofNat t.width (t.pattern key) := by
  cases t with
  | uint8 | uint16 | uint32 | uint64 | uint128 | unsignedWord | binary32 | binary64 => rfl
  -- a signed key is written from its number, and its pattern is the bit vector behind it
  | int8 => exact LittleEndian.ofInt_toInt 1 key.toBitVec
  | int16 => exact LittleEndian.ofInt_toInt 2 key.toBitVec
  | int32 => exact LittleEndian.ofInt_toInt 4 key.toBitVec
  | int64 | signedWord => exact LittleEndian.ofInt_toInt 8 key.toBitVec
  | int128 => exact LittleEndian.ofInt_toInt 16 key.toBitVec
  | complex32 => exact key.ofNat_toNat_packed32.symm
  | complex64 => exact key.ofNat_toNat_packed64.symm

/-- The content of a key is as long as its type is wide. -/
@[simp] theorem length_content (t : FixedType) (key : t.Key) :
    (t.content key).length = t.width := by
  rw [content_eq_ofNat, LittleEndian.length_ofNat]

/-- The content of a key spells its pattern. -/
@[simp] theorem toNat_content (t : FixedType) (key : t.Key) :
    LittleEndian.toNat (t.content key) = t.pattern key := by
  rw [content_eq_ofNat, LittleEndian.toNat_ofNat_pow, Nat.mod_eq_of_lt (t.pattern_lt key)]

/-- Keys of the same content are the same. -/
theorem content_injective (t : FixedType) : Function.Injective t.content := by
  intro a b h
  have hpattern : t.pattern a = t.pattern b := by rw [← toNat_content, h, toNat_content]
  rw [← t.ofPattern_pattern a, hpattern, t.ofPattern_pattern]

/-- Every sequence as long as the type is wide is the content of a key. -/
theorem exists_content_eq (t : FixedType) {bs : List UInt8} (hlength : bs.length = t.width) :
    ∃ key, t.content key = bs := by
  refine ⟨t.ofPattern (LittleEndian.toNat bs), ?_⟩
  rw [content_eq_ofNat, pattern_ofPattern, LittleEndian.ofNat_mod, ← hlength,
    LittleEndian.ofNat_toNat]

end FixedType

end KeyHash
