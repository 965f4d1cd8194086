/-! # Products of full width

The product of two 64-bit words has 128 bits. Hashing keeps all of it by combining its two halves
into one word. -/

namespace KeyHash

/-- The two halves of the 128-bit product of two words, combined by exclusive or. -/
def foldedProduct (x y : UInt64) : UInt64 :=
  let product := x.toNat * y.toNat
  UInt64.ofNat product ^^^ UInt64.ofNat (product / UInt64.size)

end KeyHash
