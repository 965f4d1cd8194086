import KeyHash.Shape
import KeyHash.Strategy

/-! # From shapes to strategies

The shape of a key type alone decides its strategy. Integers have one at each power of two up to
sixteen bytes, floating-point and complex numbers at the widths that their formats have, and byte
sequences always; every other shape is refused. A strategy always has the width of its shape. -/

namespace KeyHash

/-- Why a key type cannot be bound to a hash function. -/
inductive BindError where
  /-- No hash function is available for keys of this shape. -/
  | unsupportedShape (shape : Shape)
  deriving DecidableEq

namespace BindError

/-- The error in words. -/
def text : BindError → String
  | .unsupportedShape shape => "Unsupported key shape: " ++ shape.text

/-- The structure of the error. -/
def describe : BindError → Description
  | .unsupportedShape shape => .record "UnsupportedKeyShape" [("shape", shape.describe)]

end BindError

/-- The strategy for keys of a shape. -/
def classify : Shape → Except BindError Strategy
  | .bytes => .ok .bytes
  | .integer 1 => .ok .byte
  | .integer 2 => .ok .word
  | .integer 4 | .float 4 => .ok .dword
  | .integer 8 | .float 8 | .complex 8 => .ok .qword
  | .integer 16 | .complex 16 => .ok .oword
  | shape => .error (.unsupportedShape shape)

/-- The strategy for a shape has the width of the shape. -/
theorem width_of_classify {shape : Shape} {s : Strategy} (h : classify shape = .ok s) :
    s.width = shape.width := by
  unfold classify at h
  split at h <;> cases h <;> rfl

/-- A shape is refused with an error that carries it. -/
theorem error_of_classify {shape : Shape} {e : BindError} (h : classify shape = .error e) :
    e = .unsupportedShape shape := by
  unfold classify at h
  split at h <;> cases h
  rfl

end KeyHash
