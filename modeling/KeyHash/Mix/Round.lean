import KeyHash.Word.Rotation

/-! # The mixing state

A 64-bit state absorbs its input through rotations and multiplications by five odd constants and is
finished by `avalanche`, which spreads every bit over the whole word. All arithmetic is modulo
`2 ^ 64`. Each step can be undone, because a rotation, an exclusive or with a shifted copy and a
multiplication by an odd number can. -/

namespace KeyHash.Mix

/-! ## Constants -/

/-- The first multiplier. -/
def prime1 : UInt64 := 11400714785074694791

/-- The second multiplier. -/
def prime2 : UInt64 := 14029467366897019727

/-- The third multiplier. -/
def prime3 : UInt64 := 1609587929392839161

/-- The constant added after a 64-bit lane. -/
def prime4 : UInt64 := 9650029242287828579

/-- The multiplier of single bytes, and the seed to which the input's width is added. -/
def prime5 : UInt64 := 2870177450012600261

/-- The five constants in order. -/
def primes : List UInt64 := [prime1, prime2, prime3, prime4, prime5]

/-! ## Steps -/

/-- Finish a state, so that each of its bits depends on all of them. -/
def avalanche (h : UInt64) : UInt64 :=
  let h := (h ^^^ (h >>> 33)) * prime2
  let h := (h ^^^ (h >>> 29)) * prime3
  h ^^^ (h >>> 32)

/-- Scramble a 64-bit lane before it enters the state. -/
def round (lane : UInt64) : UInt64 := rotateLeft (lane * prime2) 31 * prime1

/-- The state after a 64-bit lane. -/
def qwordFold (h lane : UInt64) : UInt64 := rotateLeft (h ^^^ round lane) 27 * prime1 + prime4

/-- The state after a single byte. -/
def byteFold (h : UInt64) (b : UInt8) : UInt64 :=
  rotateLeft (h ^^^ (b.toUInt64 * prime5)) 11 * prime1

end KeyHash.Mix
