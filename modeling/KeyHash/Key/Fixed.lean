import KeyHash.Key.Bits
import KeyHash.Key.Type

/-! # Key types of fixed width

Integers of every width up to sixteen bytes, words of the machine, floating-point numbers, and
complex numbers of these. A signed integer is hashed as the unsigned one of the same bits, and a
floating-point or complex number as the integer of its bits. -/

namespace KeyHash

/-- The types whose keys all occupy the same number of bytes. -/
inductive FixedType where
  /-- Unsigned integers of one byte. -/
  | uint8
  /-- Signed integers of one byte. -/
  | int8
  /-- Unsigned integers of two bytes. -/
  | uint16
  /-- Signed integers of two bytes. -/
  | int16
  /-- Unsigned integers of four bytes. -/
  | uint32
  /-- Signed integers of four bytes. -/
  | int32
  /-- Unsigned integers of eight bytes. -/
  | uint64
  /-- Signed integers of eight bytes. -/
  | int64
  /-- Unsigned integers of sixteen bytes. -/
  | uint128
  /-- Signed integers of sixteen bytes. -/
  | int128
  /-- Unsigned words of the machine. -/
  | unsignedWord
  /-- Signed words of the machine. -/
  | signedWord
  /-- Floating-point numbers of four bytes. -/
  | binary32
  /-- Floating-point numbers of eight bytes. -/
  | binary64
  /-- Complex numbers with components of four bytes. -/
  | complex32
  /-- Complex numbers with components of eight bytes. -/
  | complex64
  deriving DecidableEq

namespace FixedType

/-- The keys of the type. -/
abbrev Key : FixedType → Type
  | .uint8 => UInt8
  | .int8 => Int8
  | .uint16 => UInt16
  | .int16 => Int16
  | .uint32 => UInt32
  | .int32 => Int32
  | .uint64 => UInt64
  | .int64 => Int64
  | .uint128 => UInt128
  | .int128 => Int128
  | .unsignedWord => UInt64
  | .signedWord => Int64
  | .binary32 => Binary32
  | .binary64 => Binary64
  | .complex32 => Complex Binary32
  | .complex64 => Complex Binary64

/-- The hash of a key. -/
def hash : (t : FixedType) → t.Key → UInt64
  | .uint8 => Mix.byte
  | .int8 => fun key => Mix.byte key.toUInt8
  | .uint16 => Mix.word
  | .int16 => fun key => Mix.word key.toUInt16
  | .uint32 => Mix.dword
  | .int32 => fun key => Mix.dword key.toUInt32
  | .uint64 => Mix.qword
  | .int64 => fun key => Mix.qword key.toUInt64
  | .uint128 => Mix.oword
  | .int128 => fun key => Mix.oword key.toUInt128
  | .unsignedWord => Mix.native
  | .signedWord => fun key => Mix.native key.toUInt64
  | .binary32 => Binary32.hash
  | .binary64 => Binary64.hash
  | .complex32 => Complex.hash32
  | .complex64 => Complex.hash64

/-- The type as a key type. -/
def keyType : (t : FixedType) → KeyType t.Key
  | .uint8 => .single "u8" (.integer 1) .byte (hash .uint8)
  | .int8 => .single "i8" (.integer 1) .byte (hash .int8)
  | .uint16 => .single "u16" (.integer 2) .word (hash .uint16)
  | .int16 => .single "i16" (.integer 2) .word (hash .int16)
  | .uint32 => .single "u32" (.integer 4) .dword (hash .uint32)
  | .int32 => .single "i32" (.integer 4) .dword (hash .int32)
  | .uint64 => .single "u64" (.integer 8) .qword (hash .uint64)
  | .int64 => .single "i64" (.integer 8) .qword (hash .int64)
  | .uint128 => .single "u128" (.integer 16) .oword (hash .uint128)
  | .int128 => .single "i128" (.integer 16) .oword (hash .int128)
  | .unsignedWord => .native "usize" id
  | .signedWord => .native "isize" Int64.toUInt64
  | .binary32 => .single "f32" (.float 4) .dword (hash .binary32)
  | .binary64 => .single "f64" (.float 8) .qword (hash .binary64)
  | .complex32 =>
    .single "keymix::complex::Complex<f32>" (.complex 8) .qword (hash .complex32)
  | .complex64 =>
    .single "keymix::complex::Complex<f64>" (.complex 16) .oword (hash .complex64)

/-- The comparison that the keys of the type come with. -/
instance instBEqKey : (t : FixedType) → BEq t.Key
  | .uint8 => inferInstanceAs (BEq UInt8)
  | .int8 => inferInstanceAs (BEq Int8)
  | .uint16 => inferInstanceAs (BEq UInt16)
  | .int16 => inferInstanceAs (BEq Int16)
  | .uint32 => inferInstanceAs (BEq UInt32)
  | .int32 => inferInstanceAs (BEq Int32)
  | .uint64 => inferInstanceAs (BEq UInt64)
  | .int64 => inferInstanceAs (BEq Int64)
  | .uint128 => inferInstanceAs (BEq UInt128)
  | .int128 => inferInstanceAs (BEq Int128)
  | .unsignedWord => inferInstanceAs (BEq UInt64)
  | .signedWord => inferInstanceAs (BEq Int64)
  | .binary32 => inferInstanceAs (BEq Binary32)
  | .binary64 => inferInstanceAs (BEq Binary64)
  | .complex32 => inferInstanceAs (BEq (Complex Binary32))
  | .complex64 => inferInstanceAs (BEq (Complex Binary64))

end FixedType

end KeyHash
