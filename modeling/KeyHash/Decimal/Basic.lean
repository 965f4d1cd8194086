/-! # Decimal numerals

A decimal is a whole number of units of a power of ten. A layout decides how it is written: with
which leading exponents the digits are set out around the point and with which in powers of ten, and
what a whole number ends in. -/

namespace KeyHash

/-- The number `digits * 10 ^ exponent`. -/
structure Decimal where
  /-- The digits, read as one number. -/
  digits : Nat
  /-- The place of the last digit. -/
  exponent : Int
  deriving DecidableEq

/-- How decimals are written. -/
structure NumeralLayout where
  /-- Whether a decimal with this leading exponent has its digits set out around the point. -/
  isPositional : Int → Bool
  /-- What follows a whole number whose digits are set out. -/
  wholeEnding : String

/-- The power of ten with an exponent, or one if the exponent is negative. -/
def powerOfTen (e : Int) : Nat := Nat.pow 10 e.toNat

/-- The digits of a number in base ten. -/
def decimalDigits (n : Nat) : List Char := Nat.toDigits 10 n

/-- An integer in base ten. -/
def integerText (i : Int) : String :=
  (if i < 0 then "-" else "") ++ String.ofList (decimalDigits i.natAbs)

namespace Decimal

/-- The place of the first digit. -/
def leadingExponent (d : Decimal) : Int := (decimalDigits d.digits).length - 1 + d.exponent

/-- The digits set out around the point, filled up with zeros. -/
def positional (wholeEnding : String) (d : Decimal) : String :=
  let digits := decimalDigits d.digits
  if 0 ≤ d.exponent then
    String.ofList (digits ++ List.replicate d.exponent.toNat '0') ++ wholeEnding
  else
    let places := d.exponent.natAbs
    let digits := List.replicate (places + 1 - digits.length) '0' ++ digits
    let whole := digits.length - places
    String.ofList (digits.take whole) ++ "." ++ String.ofList (digits.drop whole)

/-- The digits with the point after the first, and the power of ten. -/
def scientific (d : Decimal) : String :=
  let mantissa :=
    match decimalDigits d.digits with
    | first :: second :: rest => String.ofList (first :: '.' :: second :: rest)
    | digits => String.ofList digits
  mantissa ++ "e" ++ integerText d.leadingExponent

/-- The decimal in a layout. -/
def text (layout : NumeralLayout) (d : Decimal) : String :=
  if layout.isPositional d.leadingExponent then d.positional layout.wholeEnding else d.scientific

end Decimal

end KeyHash
