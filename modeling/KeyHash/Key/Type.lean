import KeyHash.Classification
import KeyHash.Mix.Fixed

/-! # Key types

A key type states its shape and says, for each strategy, which hash function it offers under that
strategy, if any. Nothing forces the two to agree: a type may offer a function under a strategy that
its shape does not lead to, or none under the one that it does. Each way to build a key type decides
on its offer in a manner of its own: by the strategy, by its width, or as another type does. -/

namespace KeyHash

/-- A type of keys, as far as hashing is concerned. -/
structure KeyType (Key : Type) where
  /-- The name under which the type is logged. -/
  name : String
  /-- The kind and width of the keys. -/
  shape : Shape
  /-- The hash function that is offered under a strategy; by default none is, under any. -/
  offer : Strategy → Option (Key → UInt64) := fun _ => none

namespace KeyType

variable {Key : Type}

/-- A key type with one hash function, offered under one strategy. -/
def single (name : String) (shape : Shape) (own : Strategy) (hash : Key → UInt64) :
    KeyType Key where
  name
  shape
  offer strategy := if strategy = own then some hash else none

/-- A key type whose keys are words of the machine, offered under any strategy of that width. -/
def native (name : String) (toWord : Key → UInt64) : KeyType Key where
  name
  shape := .word
  offer strategy :=
    if strategy.width = some wordWidth then some fun key => Mix.native (toWord key) else none

/-- References to the keys of a type. They are offered a function of their own, which hashes what
they refer to, under exactly the strategies under which the type itself is offered something. -/
def reference (referent : KeyType Key) (hash : Key → UInt64) : KeyType Key where
  name := "&" ++ referent.name
  shape := referent.shape
  offer strategy := (referent.offer strategy).map fun _ => hash

/-- Addresses, which are hashed as words of the machine. -/
def pointer (isMutable : Bool) (pointee : String) : KeyType UInt64 :=
  native ((if isMutable then "*mut " else "*const ") ++ pointee) id

/-- Keys that are hashed as sequences of bytes. -/
def sequence (name : String) (hash : Key → UInt64) : KeyType Key := single name .bytes .bytes hash

/-! ## Offers -/

/-- Words of the machine are offered under one strategy, as no other has their width. -/
theorem offer_native (name : String) (toWord : Key → UInt64) (s : Strategy) :
    (native name toWord).offer s =
      if s = .qword then some fun key => Mix.native (toWord key) else none := by
  cases s <;> rfl

/-- References are offered a function wherever what they refer to is offered one. -/
theorem offer_reference (t : KeyType Key) (hash : Key → UInt64) (s : Strategy) :
    (t.reference hash).offer s = (t.offer s).map fun _ => hash := rfl

end KeyType

end KeyHash
