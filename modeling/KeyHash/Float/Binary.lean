import KeyHash.Float.Format

/-! # Floating-point numbers as bit patterns

A floating-point number is kept as its bits, sign and payload of what is not a number included, so
that hashing can tell apart what comparison does not. Comparison is by the numbers denoted. -/

namespace KeyHash

/-- A floating-point number of 32 bits. -/
structure Binary32 where
  /-- The bit pattern. -/
  bits : UInt32
  deriving DecidableEq

/-- A floating-point number of 64 bits. -/
structure Binary64 where
  /-- The bit pattern. -/
  bits : UInt64
  deriving DecidableEq

/-- What the bit pattern stands for. -/
def Binary32.datum (x : Binary32) : FloatDatum := FloatFormat.binary32.datum x.bits.toNat

/-- What the bit pattern stands for. -/
def Binary64.datum (x : Binary64) : FloatDatum := FloatFormat.binary64.datum x.bits.toNat

/-- Numbers are compared, not bit patterns: the two zeros are equal, and what is not a number is not
even equal to itself. -/
instance : BEq Binary32 := ⟨fun a b => a.datum.equal b.datum⟩

/-- Numbers are compared, not bit patterns, as for the narrower format. -/
instance : BEq Binary64 := ⟨fun a b => a.datum.equal b.datum⟩

/-- Positive zero. -/
instance : Inhabited Binary32 := ⟨⟨0⟩⟩

/-- Positive zero. -/
instance : Inhabited Binary64 := ⟨⟨0⟩⟩

/-- Numbers of 32 bits are compared by what their patterns stand for. -/
@[simp] theorem Binary32.beq_def (a b : Binary32) : (a == b) = a.datum.equal b.datum := rfl

/-- Numbers of 64 bits are compared by what their patterns stand for. -/
@[simp] theorem Binary64.beq_def (a b : Binary64) : (a == b) = a.datum.equal b.datum := rfl

end KeyHash
