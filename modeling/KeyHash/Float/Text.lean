import KeyHash.Decimal.Places
import KeyHash.Decimal.Shortest
import KeyHash.Float.Binary

/-! # Floating-point numbers in words

A floating-point number is written with the fewest digits that tell it apart from its neighbours.
Plainly written, the digits are always set out around the point; in a description a whole number
shows that it is not an integer, and very small and very large ones are given in powers of ten. With
a number of places asked for, the exact value is rounded to it instead. -/

namespace KeyHash

/-- The layout of plain text: never in powers of ten, and a whole number looks like an integer. -/
def plainLayout : NumeralLayout := ⟨fun _ => true, ""⟩

/-- The layout of descriptions: powers of ten below `10 ^ -4` and from `10 ^ 16` on. -/
def describedLayout : NumeralLayout := ⟨fun leading => -4 ≤ leading && leading < 16, ".0"⟩

/-- The sign of a number. -/
def signText (negative : Bool) : String := if negative then "-" else ""

namespace FloatFormat

/-- The exponent of two in a finite datum. -/
def exponentAt (f : FloatFormat) (scale : Nat) : Int := f.leastExponent + scale

/-- The reals that round to a finite positive datum, in quarters of its last bit. Below a power of
two the neighbour is half as far, unless numbers are already at their closest; the ends round to the
datum if its significand is even. -/
def roundingRange (f : FloatFormat) (significand scale : Nat) : RoundingRange where
  low := 4 * significand - if significand = 1 <<< f.fractionBits && 0 < scale then 1 else 2
  middle := 4 * significand
  high := 4 * significand + 2
  exponent := f.exponentAt scale - 2
  closed := significand % 2 = 0

/-- The shortest decimal that rounds to a finite datum. -/
def shortest (f : FloatFormat) (significand scale : Nat) : Decimal :=
  if significand = 0 then ⟨0, 0⟩ else (f.roundingRange significand scale).shortest

/-- A finite positive datum or zero in words: shortest, or rounded to a number of places. -/
def magnitudeText (f : FloatFormat) (layout : NumeralLayout) (places : Option Nat)
    (significand scale : Nat) : String :=
  match places with
  | none => (f.shortest significand scale).text layout
  | some n => (Decimal.ofBinary n significand (f.exponentAt scale)).positional ""

/-- A datum of the format in words; only numbers have a sign. -/
def text (f : FloatFormat) (layout : NumeralLayout) (places : Option Nat) : FloatDatum → String
  | .nan => "NaN"
  | .infinite negative => signText negative ++ "inf"
  | .finite negative significand scale =>
    signText negative ++ f.magnitudeText layout places significand scale

end FloatFormat

end KeyHash
