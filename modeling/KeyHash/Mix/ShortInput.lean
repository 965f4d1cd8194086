import KeyHash.Mix.Round
import KeyHash.Word.LittleEndian

/-! # Mixing a short byte sequence

The general procedure for inputs of fewer than 32 bytes: the state is seeded with the length, then
takes the input in the largest pieces that fit, first lanes of eight bytes, then at most one of
four, then single bytes, and is finished at the end. It is a loop over the bytes and knows nothing
of the straight-line mixers, whose meaning it gives. -/

namespace KeyHash.Mix.ShortInput

/-- The state after the bytes left once fewer than four remain, taken one at a time. -/
def absorbBytes (h : UInt64) : List UInt8 → UInt64
  | [] => h
  | b :: bs => absorbBytes (rotateLeft (h ^^^ (b.toUInt64 * prime5)) 11 * prime1) bs

/-- The state after fewer than eight bytes: four of them at once where there are that many. -/
def absorbTail (h : UInt64) (bs : List UInt8) : UInt64 :=
  if 4 ≤ bs.length then
    let lane := LittleEndian.word (bs.take 4)
    absorbBytes (rotateLeft (h ^^^ (lane * prime1)) 23 * prime2 + prime3) (bs.drop 4)
  else absorbBytes h bs

/-- The state after a byte sequence: lanes of eight bytes as long as there are that many. -/
def absorb (h : UInt64) (bs : List UInt8) : UInt64 :=
  if 8 ≤ bs.length then
    let lane := LittleEndian.word (bs.take 8)
    let scrambled := rotateLeft (lane * prime2) 31 * prime1
    absorb (rotateLeft (h ^^^ scrambled) 27 * prime1 + prime4) (bs.drop 8)
  else absorbTail h bs
termination_by bs.length
decreasing_by rw [List.length_drop]; omega

/-- Hash of a byte sequence of fewer than 32 bytes. -/
def hash (bs : List UInt8) : UInt64 := avalanche (absorb (prime5 + UInt64.ofNat bs.length) bs)

end KeyHash.Mix.ShortInput
