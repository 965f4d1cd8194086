import KeyHash.Mix.Round
import KeyHash.Word.Wide

/-! # Mixers for keys of fixed width

One mixer for each width of 1, 2, 4, 8 and 16 bytes. A mixer seeds the state with the width, folds
the key in as a straight line of steps and finishes the state; knowing the width beforehand, it
needs no loop. -/

namespace KeyHash.Mix

/-- Hash of a key of one byte. -/
def byte (key : UInt8) : UInt64 := avalanche (byteFold (prime5 + 1) key)

/-- Hash of a key of two bytes, the lower byte folded in first. -/
def word (key : UInt16) : UInt64 :=
  avalanche (byteFold (byteFold (prime5 + 2) key.toUInt8) (key >>> 8).toUInt8)

/-- Hash of a key of four bytes. -/
def dword (key : UInt32) : UInt64 :=
  avalanche (rotateLeft ((prime5 + 4) ^^^ (key.toUInt64 * prime1)) 23 * prime2 + prime3)

/-- Hash of a key of eight bytes. -/
def qword (key : UInt64) : UInt64 := avalanche (qwordFold (prime5 + 8) key)

/-- Hash of a key of sixteen bytes, the lower half folded in first. -/
def oword (key : UInt128) : UInt64 :=
  avalanche (qwordFold (qwordFold (prime5 + 16) key.low) key.high)

/-- Hash of a machine word, which is eight bytes wide. -/
def native (key : UInt64) : UInt64 := qword key

end KeyHash.Mix
