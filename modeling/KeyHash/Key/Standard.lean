import KeyHash.Key.Fixed
import KeyHash.Xxh3.Hash

/-! # The standard key types

Beside the types of fixed width there are references to them, addresses, texts and sequences of
bytes. A text or a sequence may be held in several ways, which differ in name only: what is hashed
is always the bytes. -/

namespace KeyHash

/-- How a text or a sequence of bytes is held. -/
inductive Holding where
  /-- In place. -/
  | direct
  /-- Behind a reference. -/
  | reference
  /-- In a buffer of its own that can grow. -/
  | owned
  /-- In a buffer of its own that cannot. -/
  | boxed
  deriving DecidableEq

/-- The name of a type held in some way, from its own name and the name of its buffer. -/
def Holding.name (own buffer : String) : Holding → String
  | .direct => own
  | .reference => "&" ++ own
  | .owned => buffer
  | .boxed => "alloc::boxed::Box<" ++ own ++ ">"

/-- The key types that can be bound as they come. -/
inductive StandardType where
  /-- A type of fixed width. -/
  | fixed (type : FixedType)
  /-- References to a type of fixed width. -/
  | reference (type : FixedType)
  /-- Addresses of something whose type has the given name. -/
  | pointer (isMutable : Bool) (pointee : String)
  /-- Texts. -/
  | text (holding : Holding)
  /-- Sequences of bytes. -/
  | bytes (holding : Holding)
  deriving DecidableEq

namespace StandardType

/-- The keys of the type. -/
abbrev Key : StandardType → Type
  | .fixed type | .reference type => type.Key
  | .pointer _ _ => UInt64
  | .text _ => String
  | .bytes _ => List UInt8

/-- The type as a key type, where `sequenceHash` hashes sequences of bytes. -/
def keyTypeOver (sequenceHash : List UInt8 → UInt64) : (t : StandardType) → KeyType t.Key
  | .fixed type => type.keyType
  | .reference type => type.keyType.reference type.hash
  | .pointer isMutable pointee => .pointer isMutable pointee
  | .text holding =>
    .sequence (holding.name "str" "alloc::string::String") fun s => sequenceHash (utf8Bytes s)
  | .bytes holding => .sequence (holding.name "[u8]" "alloc::vec::Vec<u8>") sequenceHash

/-- The type as a key type. -/
def keyType (t : StandardType) : KeyType t.Key := t.keyTypeOver Xxh3.hash

/-- The comparison that the keys of the type come with. -/
instance instBEqKey : (t : StandardType) → BEq t.Key
  | .fixed type | .reference type => inferInstanceAs (BEq type.Key)
  | .pointer _ _ => inferInstanceAs (BEq UInt64)
  | .text _ => inferInstanceAs (BEq String)
  | .bytes _ => inferInstanceAs (BEq (List UInt8))

end StandardType

end KeyHash
