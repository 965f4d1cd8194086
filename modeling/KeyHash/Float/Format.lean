/-! # Binary floating-point formats

A format fixes how many bits hold the fraction and how many the exponent. A bit pattern of the
format is read as a datum: not a number, an infinity, or a finite number. Finite numbers are whole
multiples of the format's least positive value, so a datum that is a number compares as an integer
or an infinity (`FloatDatum.number?`), and the two zeros are the same number. -/

namespace KeyHash

/-- A binary format, by the widths of its fields; one more bit holds the sign. -/
structure FloatFormat where
  /-- Bits of the fraction. -/
  fractionBits : Nat
  /-- Bits of the exponent. -/
  exponentBits : Nat

/-- What a bit pattern stands for. -/
inductive FloatDatum where
  /-- Not a number. -/
  | nan
  /-- An infinity. -/
  | infinite (negative : Bool)
  /-- The number `significand * 2 ^ scale` times the least positive value, with a sign. -/
  | finite (negative : Bool) (significand scale : Nat)
  deriving DecidableEq

/-- A number that a format can hold: an infinity or a multiple of the least positive value. -/
inductive FloatNumber where
  /-- An infinity. -/
  | infinite (negative : Bool)
  /-- A finite number, in multiples of the least positive value. -/
  | multiple (count : Int)
  deriving DecidableEq

namespace FloatFormat

/-- The format of 32 bits. -/
def binary32 : FloatFormat := ⟨23, 8⟩

/-- The format of 64 bits. -/
def binary64 : FloatFormat := ⟨52, 11⟩

/-- The exponent of the least positive value, which is a power of two. -/
def leastExponent (f : FloatFormat) : Int := 2 - (1 <<< (f.exponentBits - 1) : Nat) - f.fractionBits

/-- The fraction field of a bit pattern. -/
def fraction (f : FloatFormat) (bits : Nat) : Nat := bits % (1 <<< f.fractionBits)

/-- The exponent field of a bit pattern. -/
def biasedExponent (f : FloatFormat) (bits : Nat) : Nat :=
  (bits >>> f.fractionBits) % (1 <<< f.exponentBits)

/-- Whether the sign bit of a bit pattern is set. -/
def isNegative (f : FloatFormat) (bits : Nat) : Bool :=
  bits.testBit (f.fractionBits + f.exponentBits)

/-- The datum of a bit pattern. The greatest exponent marks infinities and what is not a number; the
least one marks numbers without the leading bit that all others have. -/
def datum (f : FloatFormat) (bits : Nat) : FloatDatum :=
  if f.biasedExponent bits + 1 = 1 <<< f.exponentBits then
    if f.fraction bits = 0 then .infinite (f.isNegative bits) else .nan
  else if f.biasedExponent bits = 0 then .finite (f.isNegative bits) (f.fraction bits) 0
  else
    .finite (f.isNegative bits) ((1 <<< f.fractionBits) + f.fraction bits)
      (f.biasedExponent bits - 1)

end FloatFormat

namespace FloatDatum

/-- The number that a datum is, if it is one. -/
def number? : FloatDatum → Option FloatNumber
  | .nan => none
  | .infinite negative => some (.infinite negative)
  | .finite negative significand scale =>
    let count : Int := (significand <<< scale : Nat)
    some (.multiple (if negative then -count else count))

/-- Whether two data are the same number; what is not a number equals nothing. -/
def equal (a b : FloatDatum) : Bool :=
  match a.number?, b.number? with
  | some x, some y => x = y
  | _, _ => false

end FloatDatum

end KeyHash
