import KeyHash.Shape
import KeyHash.Strategy
import KeyHash.Text.Quoted

/-! # Hashers

A hasher is a hash function for the keys of one type, together with the shape and the strategy that
it was chosen for. It is a value: nothing replaces its function, and a copy is the same hasher. -/

namespace KeyHash

/-- A hash function chosen for the keys of a type. -/
structure Hasher (Key : Type) where
  /-- The shape of the keys. -/
  shape : Shape
  /-- The strategy of that shape. -/
  strategy : Strategy
  /-- The function that the type offers under that strategy. -/
  function : Key → UInt64

namespace Hasher

variable {Key : Type}

/-- The hash of a key. -/
def hash (h : Hasher Key) (key : Key) : UInt64 := h.function key

/-- The structure of a hasher for keys of the named type. -/
def describe (typeName : String) (h : Hasher Key) : Description :=
  .record "KeyHasher" [
    ("key", .leaf (Text.quote typeName)),
    ("shape", h.shape.describe),
    ("strategy", h.strategy.describe)]

end Hasher

end KeyHash
