import KeyHash.Xxh3.Secret

/-! # XXH3 of at most 16 bytes

Four length classes, each with a formula of its own. The reads overlap where the class covers
several lengths, so that no byte is left out and none is read past the end; the length itself always
enters the hash. -/

namespace KeyHash.Xxh3

/-- The byte at offset `i`, as a word. -/
def byteAt (bs : List UInt8) (i : Nat) : UInt64 := (bs.getD i 0).toUInt64

/-- Hash of the empty sequence. -/
def hashEmpty : UInt64 := Mix.avalanche (secretPair 56)

/-- One, two or three bytes and their count, packed into 32 bits: the middle byte on top, then the
first, the length, and the last at the bottom. -/
def packUpTo3 (bs : List UInt8) : UInt64 :=
  (byteAt bs 0 <<< 16) ||| (byteAt bs (bs.length / 2) <<< 24) ||| byteAt bs (bs.length - 1) |||
    (UInt64.ofNat bs.length <<< 8)

/-- Hash of one, two or three bytes. -/
def hashUpTo3 (bs : List UInt8) : UInt64 :=
  Mix.avalanche (packUpTo3 bs ^^^
    (LittleEndian.dwordAt secret 0 ^^^ LittleEndian.dwordAt secret 4))

/-- The last four bytes below the first four, added as a 64-bit number. -/
def packUpTo8 (bs : List UInt8) : UInt64 :=
  LittleEndian.dwordAt bs (bs.length - 4) + (LittleEndian.dwordAt bs 0 <<< 32)

/-- Scramble a word of an input of length `n` from 4 to 8. -/
def scramblePair (n h : UInt64) : UInt64 :=
  let h := (h ^^^ rotateLeft h 49 ^^^ rotateLeft h 24) * pairMultiplier
  let h := (h ^^^ ((h >>> 35) + n)) * pairMultiplier
  h ^^^ (h >>> 28)

/-- Hash of four to eight bytes. -/
def hashUpTo8 (bs : List UInt8) : UInt64 :=
  scramblePair (UInt64.ofNat bs.length) (packUpTo8 bs ^^^ secretPair 8)

/-- Hash of nine to sixteen bytes. -/
def hashUpTo16 (bs : List UInt8) : UInt64 :=
  let low := LittleEndian.qwordAt bs 0 ^^^ secretPair 24
  let high := LittleEndian.qwordAt bs (bs.length - 8) ^^^ secretPair 40
  finish (UInt64.ofNat bs.length + LittleEndian.swapBytes low + high + foldedProduct low high)

end KeyHash.Xxh3
