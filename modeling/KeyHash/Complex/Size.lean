import KeyHash.Complex.Basic
import KeyHash.Float.Binary

/-! # Sizes in memory

The bytes that a value occupies, where that is the same for all values of its type. A complex number
occupies what its two components do, without padding. -/

namespace KeyHash

/-- A type whose values all occupy the same number of bytes. -/
class FixedSize (α : Type) where
  /-- The number of bytes. -/
  byteSize : Nat

/-- One byte. -/
instance : FixedSize UInt8 := ⟨1⟩

/-- Eight bytes. -/
instance : FixedSize Int64 := ⟨8⟩

/-- Four bytes, those of the bit pattern. -/
instance : FixedSize Binary32 := ⟨4⟩

/-- Eight bytes, those of the bit pattern. -/
instance : FixedSize Binary64 := ⟨8⟩

/-- The two components, side by side. -/
instance {α : Type} [FixedSize α] : FixedSize (Complex α) := ⟨2 * FixedSize.byteSize α⟩

end KeyHash
