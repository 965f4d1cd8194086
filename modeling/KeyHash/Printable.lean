import KeyHash.Float.Text
import KeyHash.Description
import KeyHash.Text.Quoted

/-! # Printable values

A value can be printed in two ways: as plain text and as a structural description, the latter with a
number of places to which numbers that need not be whole are rounded. Integers and texts have no use
for the places. -/

namespace KeyHash

/-- A type whose values can be printed. -/
class Printable (α : Type) where
  /-- The value as plain text. -/
  text : α → String
  /-- The structure of the value, numbers rounded to the places asked for. -/
  describe : Option Nat → α → Description

/-- Floating-point numbers as decimals, the shortest ones where no places are asked for. -/
instance : Printable Binary32 where
  text x := FloatFormat.binary32.text plainLayout none x.datum
  describe places x := .leaf (FloatFormat.binary32.text describedLayout places x.datum)

/-- Floating-point numbers as decimals, as for the narrower format. -/
instance : Printable Binary64 where
  text x := FloatFormat.binary64.text plainLayout none x.datum
  describe places x := .leaf (FloatFormat.binary64.text describedLayout places x.datum)

/-- Signed integers in base ten, both ways. -/
instance : Printable Int64 where
  text x := integerText x.toInt
  describe _ x := .leaf (integerText x.toInt)

/-- Bytes as numbers in base ten, both ways. -/
instance : Printable UInt8 where
  text x := integerText x.toNat
  describe _ x := .leaf (integerText x.toNat)

/-- Texts as they are, and quoted where they are described. -/
instance : Printable String where
  text s := s
  describe _ s := .leaf (Text.quote s)

end KeyHash
