import KeyHash.Description

/-! # Hashing strategies

A strategy names the function that hashes the keys of a type: the mixer of one width, or the hash of
byte sequences. -/

namespace KeyHash

/-- The way in which the keys of a type are hashed. -/
inductive Strategy where
  /-- The mixer of one byte. -/
  | byte
  /-- The mixer of two bytes. -/
  | word
  /-- The mixer of four bytes. -/
  | dword
  /-- The mixer of eight bytes. -/
  | qword
  /-- The mixer of sixteen bytes. -/
  | oword
  /-- The hash of byte sequences. -/
  | bytes
  deriving DecidableEq

namespace Strategy

/-- The bytes that the strategy takes in, where that is the same for all keys. -/
def width : Strategy → Option Nat
  | .byte => some 1
  | .word => some 2
  | .dword => some 4
  | .qword => some 8
  | .oword => some 16
  | .bytes => none

/-- The strategy in words. -/
def text : Strategy → String
  | .byte => "byte mixer"
  | .word => "word mixer"
  | .dword => "dword mixer"
  | .qword => "qword mixer"
  | .oword => "oword mixer"
  | .bytes => "XXH3"

/-- The name of the strategy. -/
def name : Strategy → String
  | .byte => "Byte"
  | .word => "Word"
  | .dword => "Dword"
  | .qword => "Qword"
  | .oword => "Oword"
  | .bytes => "Bytes"

/-- The structure of the strategy, which is its name. -/
def describe (s : Strategy) : Description := .leaf s.name

end Strategy

end KeyHash
