import KeyHash.Xxh3.Short
import KeyHash.Xxh3.Medium
import KeyHash.Xxh3.Long

/-! # XXH3

The 64-bit hash of a byte sequence of any length, with seed zero and the default secret: the length
picks one of the formulas. A text is hashed as its UTF-8 bytes. -/

namespace KeyHash

namespace Xxh3

/-- Hash of a byte sequence. -/
def hash (bs : List UInt8) : UInt64 :=
  let n := bs.length
  if n = 0 then hashEmpty
  else if n ≤ 3 then hashUpTo3 bs
  else if n ≤ 8 then hashUpTo8 bs
  else if n ≤ 16 then hashUpTo16 bs
  else if n ≤ 128 then hashUpTo128 bs
  else if n ≤ 240 then hashUpTo240 bs
  else hashLong bs

end Xxh3

/-- The UTF-8 bytes of a text. -/
def utf8Bytes (s : String) : List UInt8 := s.toByteArray.data.toList

/-- A text is determined by its bytes. -/
theorem utf8Bytes_inj {s t : String} : utf8Bytes s = utf8Bytes t ↔ s = t := by
  constructor
  · intro h
    exact String.toByteArray_inj.mp (ByteArray.ext (Array.toList_inj.mp h))
  · rintro rfl
    rfl

end KeyHash
