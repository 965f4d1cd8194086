import KeyHash.Description

/-! # Key shapes

What is known of a key type before any key is seen: its kind and, unless it is a sequence of bytes,
the number of bytes that every key occupies. -/

namespace KeyHash

/-- Bytes in a word of the machine. -/
def wordWidth : Nat := 8

/-- The kind and width of a key type. -/
inductive Shape where
  /-- An integer of `width` bytes. -/
  | integer (width : Nat)
  /-- A floating-point number of `width` bytes. -/
  | float (width : Nat)
  /-- A complex number of `width` bytes altogether. -/
  | complex (width : Nat)
  /-- A sequence of any number of bytes. -/
  | bytes
  /-- A value of `width` bytes that nothing else is known of. -/
  | uninterpreted (width : Nat)
  deriving DecidableEq

namespace Shape

/-- The shape of an integer as wide as a word of the machine. -/
def word : Shape := .integer wordWidth

/-- The bytes that a key occupies, where that is the same for all keys. -/
def width : Shape → Option Nat
  | .integer w | .float w | .complex w | .uninterpreted w => some w
  | .bytes => none

/-- The shape in words. -/
def text : Shape → String
  | .integer w => w.repr ++ "-byte integer"
  | .float w => w.repr ++ "-byte float"
  | .complex w => w.repr ++ "-byte complex"
  | .bytes => "byte sequence"
  | .uninterpreted w => w.repr ++ "-byte opaque value"

/-- A shape that has a width, described by its kind and that width. -/
def describeWidth (kind : String) (width : Nat) : Description :=
  .record kind [("width", .leaf width.repr)]

/-- The structure of the shape. -/
def describe : Shape → Description
  | .integer w => describeWidth "Integer" w
  | .float w => describeWidth "Float" w
  | .complex w => describeWidth "Complex" w
  | .bytes => .leaf "Bytes"
  | .uninterpreted w => describeWidth "Opaque" w

end Shape

end KeyHash
