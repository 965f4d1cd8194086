import KeyHash.Xxh3.Secret

/-! # XXH3 of more than 240 bytes

Eight 64-bit lanes absorb the input in stripes of 64 bytes. Within a block of sixteen stripes the
secret advances by eight bytes from stripe to stripe; after a full block the lanes are scrambled.
The last 64 bytes always make a stripe of their own, wherever it starts, and at the end the lanes
are multiplied out in pairs. -/

namespace KeyHash.Xxh3

/-- The eight lanes before any input. -/
def initialLanes : List UInt64 :=
  [prime32c, Mix.prime1, Mix.prime2, Mix.prime3, Mix.prime4, prime32b, Mix.prime5, prime32a]

/-- The product of the two halves of a word. -/
def halvesProduct (x : UInt64) : UInt64 := (x &&& (0xffffffff : UInt64)) * (x >>> 32)

/-- The lanes after one stripe. Lanes work in pairs: each takes its own word against the secret, and
its neighbour's word as it stands. -/
def absorbStripe : List UInt64 → List UInt64 → List UInt64 → List UInt64
  | a :: b :: lanes, x :: y :: stripe, s :: t :: key =>
    (a + y + halvesProduct (x ^^^ s)) :: (b + x + halvesProduct (y ^^^ t)) ::
      absorbStripe lanes stripe key
  | _, _, _ => []

/-- The lanes after `n` stripes, the secret advancing by eight bytes with each. -/
def absorbStripes : Nat → List UInt8 → List UInt64 → List UInt8 → List UInt64
  | 0, _, lanes, _ => lanes
  | n + 1, key, lanes, bs =>
    absorbStripes n (key.drop 8)
      (absorbStripe lanes (LittleEndian.qwords 8 bs) (LittleEndian.qwords 8 key)) (bs.drop 64)

/-- The lanes scrambled at the end of a block. -/
def scramble (lanes : List UInt64) : List UInt64 :=
  List.zipWith (fun (lane key : UInt64) => (lane ^^^ (lane >>> 47) ^^^ key) * prime32a) lanes
    (LittleEndian.qwords 8 (secret.drop 128))

/-- The lanes after `n` blocks of sixteen stripes. -/
def absorbBlocks : Nat → List UInt64 → List UInt8 → List UInt64
  | 0, lanes, _ => lanes
  | n + 1, lanes, bs =>
    absorbBlocks n (scramble (absorbStripes 16 secret lanes bs)) (bs.drop 1024)

/-- The sum of the products of neighbouring lanes against the secret. -/
def lanePairs : List UInt64 → List UInt64 → UInt64
  | a :: b :: lanes, s :: t :: key => foldedProduct (a ^^^ s) (b ^^^ t) + lanePairs lanes key
  | _, _ => 0

/-- Hash of more than 240 bytes. -/
def hashLong (bs : List UInt8) : UInt64 :=
  let n := bs.length
  let blocks := (n - 1) / 1024
  let stripes := (n - 1) % 1024 / 64
  let lanes := absorbBlocks blocks initialLanes bs
  let lanes := absorbStripes stripes secret lanes (bs.drop (1024 * blocks))
  let lanes := absorbStripes 1 (secret.drop 121) lanes (bs.drop (n - 64))
  finish (UInt64.ofNat n * Mix.prime1 + lanePairs lanes (LittleEndian.qwords 8 (secret.drop 11)))

end KeyHash.Xxh3
