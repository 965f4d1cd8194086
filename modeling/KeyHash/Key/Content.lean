import KeyHash.Key.Standard
import KeyHash.Word.LittleEndian

/-! # The bytes of a key

Every key of a standard type has a content: the bytes that it occupies in little-endian memory,
through the reference where it is one, or the bytes of the sequence that it is. Under a strategy a
content has a hash, whatever type it belongs to. -/

namespace KeyHash

/-- The bytes of a key of fixed width. -/
def FixedType.content : (t : FixedType) → t.Key → List UInt8
  | .uint8, key => LittleEndian.ofNat 1 key.toNat
  | .int8, key => LittleEndian.ofInt 1 key.toInt
  | .uint16, key => LittleEndian.ofNat 2 key.toNat
  | .int16, key => LittleEndian.ofInt 2 key.toInt
  | .uint32, key => LittleEndian.ofNat 4 key.toNat
  | .int32, key => LittleEndian.ofInt 4 key.toInt
  | .uint64, key => LittleEndian.ofNat 8 key.toNat
  | .int64, key => LittleEndian.ofInt 8 key.toInt
  | .uint128, key => LittleEndian.ofNat 16 key.toNat
  | .int128, key => LittleEndian.ofInt 16 key.toInt
  | .unsignedWord, key => LittleEndian.ofNat wordWidth key.toNat
  | .signedWord, key => LittleEndian.ofInt wordWidth key.toInt
  | .binary32, key => LittleEndian.ofNat 4 key.bits.toNat
  | .binary64, key => LittleEndian.ofNat 8 key.bits.toNat
  | .complex32, key =>
    LittleEndian.ofNat 4 key.re.bits.toNat ++ LittleEndian.ofNat 4 key.im.bits.toNat
  | .complex64, key =>
    LittleEndian.ofNat 8 key.re.bits.toNat ++ LittleEndian.ofNat 8 key.im.bits.toNat

/-- The bytes of a key: of what it refers to, of the address itself, or of the sequence. -/
def StandardType.content : (t : StandardType) → t.Key → List UInt8
  | .fixed type, key | .reference type, key => type.content key
  | .pointer _ _, key => LittleEndian.ofNat wordWidth key.toNat
  | .text _, key => utf8Bytes key
  | .bytes _, key => key

/-- The hash of a content under a strategy: the mixer of the strategy's width takes the content as
one little-endian integer, and `sequenceHash` takes it as it is. -/
def Strategy.hashContent (sequenceHash : List UInt8 → UInt64) : Strategy → List UInt8 → UInt64
  | .byte, bs => Mix.byte (UInt8.ofNat (LittleEndian.toNat bs))
  | .word, bs => Mix.word (UInt16.ofNat (LittleEndian.toNat bs))
  | .dword, bs => Mix.dword (UInt32.ofNat (LittleEndian.toNat bs))
  | .qword, bs => Mix.qword (UInt64.ofNat (LittleEndian.toNat bs))
  | .oword, bs => Mix.oword (UInt128.ofNat (LittleEndian.toNat bs))
  | .bytes, bs => sequenceHash bs

end KeyHash
