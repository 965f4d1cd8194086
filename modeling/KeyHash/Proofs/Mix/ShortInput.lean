import KeyHash.Mix.Fixed
import KeyHash.Mix.ShortInput
import KeyHash.Proofs.Word.LittleEndian

/-! # Mixers without a loop

Each mixer of fixed width computes what the general procedure for short inputs computes on the
little-endian bytes of the key. On 16 bytes the procedure takes two lanes, on 8 one, on 4 one piece
of half that size, and on fewer the bytes one by one; the equations for these cases are all that the
comparison needs to know of its loop. -/

namespace KeyHash.Mix

namespace ShortInput

/-! ## What the procedure does with the lengths that occur -/

/-- Bytes taken one at a time are folded in from the left. -/
theorem absorbBytes_eq_foldl (h : UInt64) (bs : List UInt8) :
    absorbBytes h bs = bs.foldl byteFold h := by
  induction bs generalizing h with
  | nil => rfl
  | cons b bs ih => exact ih (byteFold h b)

/-- Eight bytes at the front make a lane. -/
theorem absorb_append (h : UInt64) {lane : List UInt8} (rest : List UInt8)
    (hlane : lane.length = 8) :
    absorb h (lane ++ rest) = absorb (qwordFold h (LittleEndian.word lane)) rest := by
  have hle : 8 ≤ (lane ++ rest).length := by simp [hlane]
  rw [absorb, if_pos hle, List.take_left' hlane, List.drop_left' hlane]
  rfl

/-- Four bytes alone are taken at once. -/
theorem absorb_of_length_eq_four (h : UInt64) {bs : List UInt8} (hlength : bs.length = 4) :
    absorb h bs = rotateLeft (h ^^^ (LittleEndian.word bs * prime1)) 23 * prime2 + prime3 := by
  rw [absorb, if_neg (by omega), absorbTail, if_pos (by omega),
    List.take_of_length_le (by omega), List.drop_of_length_le (by omega)]
  rfl

/-- Fewer than four bytes are taken one at a time. -/
theorem absorb_of_length_lt_four (h : UInt64) {bs : List UInt8} (hlength : bs.length < 4) :
    absorb h bs = bs.foldl byteFold h := by
  rw [absorb, if_neg (by omega), absorbTail, if_neg (by omega), absorbBytes_eq_foldl]

end ShortInput

/-! ## The mixers -/

/-- The bytes of a key of two bytes, as its mixer takes them. -/
theorem ofNat_two_toNat (key : UInt16) :
    LittleEndian.ofNat 2 key.toNat = [key.toUInt8, (key >>> 8).toUInt8] := by
  have hhigh : UInt8.ofNat (key.toNat / 256) = (key >>> 8).toUInt8 := by
    apply UInt8.toNat_inj.mp
    simp [Nat.shiftRight_eq_div_pow]
  simp [LittleEndian.ofNat, hhigh]

/-- The mixer of one byte does what the procedure does on that byte. -/
theorem byte_eq_hash (key : UInt8) :
    byte key = ShortInput.hash (LittleEndian.ofNat 1 key.toNat) := by
  rw [ShortInput.hash, ShortInput.absorb_of_length_lt_four _ (by simp), LittleEndian.length_ofNat]
  simp [LittleEndian.ofNat, byte]

/-- The mixer of two bytes does what the procedure does on them, one after the other. -/
theorem word_eq_hash (key : UInt16) :
    word key = ShortInput.hash (LittleEndian.ofNat 2 key.toNat) := by
  rw [ofNat_two_toNat, ShortInput.hash, ShortInput.absorb_of_length_lt_four _ (by simp)]
  rfl

/-- The mixer of four bytes does what the procedure does on them, taken at once. -/
theorem dword_eq_hash (key : UInt32) :
    dword key = ShortInput.hash (LittleEndian.ofNat 4 key.toNat) := by
  rw [ShortInput.hash, ShortInput.absorb_of_length_eq_four _ (LittleEndian.length_ofNat _ _),
    LittleEndian.length_ofNat, LittleEndian.word_ofNat_toNat_dword]
  rfl

/-- The mixer of eight bytes does what the procedure does on one lane. -/
theorem qword_eq_hash (key : UInt64) :
    qword key = ShortInput.hash (LittleEndian.ofNat 8 key.toNat) := by
  have hlane : (LittleEndian.ofNat 8 key.toNat).length = 8 := LittleEndian.length_ofNat _ _
  -- the key is one lane, and nothing is left behind it
  have habsorb (h : UInt64) : ShortInput.absorb h (LittleEndian.ofNat 8 key.toNat) =
      qwordFold h key := by
    rw [← List.append_nil (LittleEndian.ofNat 8 key.toNat), ShortInput.absorb_append _ _ hlane,
      LittleEndian.word_ofNat_toNat, ShortInput.absorb_of_length_lt_four _ (by simp)]
    rfl
  rw [ShortInput.hash, habsorb, hlane]
  rfl

/-- The mixer of sixteen bytes does what the procedure does on two lanes, the lower half first. -/
theorem oword_eq_hash (key : UInt128) :
    oword key = ShortInput.hash (LittleEndian.ofNat 16 key.toNat) := by
  -- the lower half is the first lane and the upper half the second
  have habsorb (h : UInt64) : ShortInput.absorb h (LittleEndian.ofNat 16 key.toNat) =
      qwordFold (qwordFold h key.low) key.high := by
    rw [LittleEndian.ofNat_toNat_wide, ShortInput.absorb_append _ _ (LittleEndian.length_ofNat _ _),
      ← List.append_nil (LittleEndian.ofNat 8 key.high.toNat),
      ShortInput.absorb_append _ _ (LittleEndian.length_ofNat _ _),
      LittleEndian.word_ofNat_toNat, LittleEndian.word_ofNat_toNat,
      ShortInput.absorb_of_length_lt_four _ (by simp)]
    rfl
  rw [ShortInput.hash, habsorb, LittleEndian.length_ofNat]
  rfl

/-- Each straight-line mixer is the general procedure for short inputs, run over the little-endian
bytes of the key. -/
theorem mixers_eq_shortInput_hash :
    (∀ key : UInt8, byte key = ShortInput.hash (LittleEndian.ofNat 1 key.toNat)) ∧
    (∀ key : UInt16, word key = ShortInput.hash (LittleEndian.ofNat 2 key.toNat)) ∧
    (∀ key : UInt32, dword key = ShortInput.hash (LittleEndian.ofNat 4 key.toNat)) ∧
    (∀ key : UInt64, qword key = ShortInput.hash (LittleEndian.ofNat 8 key.toNat) ∧
      native key = ShortInput.hash (LittleEndian.ofNat 8 key.toNat)) ∧
    (∀ key : UInt128, oword key = ShortInput.hash (LittleEndian.ofNat 16 key.toNat)) :=
  ⟨byte_eq_hash, word_eq_hash, dword_eq_hash, fun key => ⟨qword_eq_hash key, qword_eq_hash key⟩,
    oword_eq_hash⟩

end KeyHash.Mix
