import KeyHash.Xxh3.Secret

/-! # XXH3 of 17 to 240 bytes

The input is read in pieces of 16 bytes, each multiplied out against the secret, and the products
are summed. Up to 128 bytes the pieces come in pairs from both ends towards the middle; beyond that
they follow one another, with a finishing step after the first eight. -/

namespace KeyHash.Xxh3

/-- The product of the 16 bytes at offset `i` with the 16 bytes of the secret at offset `j`. -/
def piece (bs : List UInt8) (i j : Nat) : UInt64 :=
  foldedProduct (LittleEndian.qwordAt bs i ^^^ secretAt j)
    (LittleEndian.qwordAt bs (i + 8) ^^^ secretAt (j + 8))

/-- The products of the first `n` pairs of pieces: the `k`-th piece from the front and the `k`-th
from the back. -/
def pairSum (bs : List UInt8) : Nat → UInt64
  | 0 => 0
  | k + 1 =>
    pairSum bs k + piece bs (16 * k) (32 * k) +
      piece bs (bs.length - 16 * (k + 1)) (32 * k + 16)

/-- Hash of 17 to 128 bytes, which make one pair of pieces for every 32 bytes begun. -/
def hashUpTo128 (bs : List UInt8) : UInt64 :=
  finish (UInt64.ofNat bs.length * Mix.prime1 + pairSum bs ((bs.length + 31) / 32))

/-- The products of the `n` pieces from the one numbered `first` on, read against the secret from
offset `shift` on. -/
def runSum (bs : List UInt8) (first shift : Nat) : Nat → UInt64
  | 0 => 0
  | k + 1 => runSum bs first shift k + piece bs (16 * (first + k)) (16 * k + shift)

/-- Hash of 129 to 240 bytes. -/
def hashUpTo240 (bs : List UInt8) : UInt64 :=
  let n := bs.length
  let front := finish (UInt64.ofNat n * Mix.prime1 + runSum bs 0 0 8)
  finish (front + runSum bs 8 3 (n / 16 - 8) + piece bs (n - 16) 119)

end KeyHash.Xxh3
