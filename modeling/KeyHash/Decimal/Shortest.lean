import KeyHash.Decimal.Basic

/-! # The shortest decimal of a range

A binary number stands for all reals that round to it. Of the decimals in that range the shortest
one is sought: the grids of multiples of `10 ^ e` are tried from the coarsest down, and on each only
the two multiples next to the number itself matter, since a range that holds any multiple holds one
of these. If both lie in the range the nearer is taken, and the upper one if they are equally
near. -/

namespace KeyHash

/-- The reals that round to a number, all in units of `2 ^ exponent`. -/
structure RoundingRange where
  /-- The lower end. -/
  low : Nat
  /-- The number itself. -/
  middle : Nat
  /-- The upper end. -/
  high : Nat
  /-- The exponent of the unit. -/
  exponent : Int
  /-- Whether the ends round to the number too. -/
  closed : Bool

namespace RoundingRange

/-- Multiplied by this, a number of the range and a multiple of `10 ^ e` are both whole. -/
def scale (r : RoundingRange) (e : Int) : Nat := powerOfTen (-e) <<< r.exponent.toNat

/-- The step of the grid of multiples of `10 ^ e`, on the common scale. -/
def step (r : RoundingRange) (e : Int) : Nat := powerOfTen e <<< (-r.exponent).toNat

/-- Whether `n` times `10 ^ e` lies in the range. -/
def contains (r : RoundingRange) (e : Int) (n : Nat) : Bool :=
  let point := n * r.step e
  let low := r.low * r.scale e
  let high := r.high * r.scale e
  if r.closed then low ≤ point && point ≤ high else low < point && point < high

/-- The multiple of `10 ^ e` in the range that is next to the number, if there is one. -/
def nearest? (r : RoundingRange) (e : Int) : Option Nat :=
  let middle := r.middle * r.scale e
  let below := middle / r.step e
  match r.contains e below, r.contains e (below + 1) with
  | true, true => if 2 * middle < (2 * below + 1) * r.step e then some below else some (below + 1)
  | true, false => some below
  | false, true => some (below + 1)
  | false, false => none

/-- The multiple that is found lies in the range. -/
theorem contains_of_nearest? {r : RoundingRange} {e : Int} {n : Nat} (h : r.nearest? e = some n) :
    r.contains e n = true := by
  simp only [nearest?] at h
  split at h
  · -- both neighbours lie in the range, and one of them is taken
    split at h <;> cases h <;> assumption
  · cases h
    assumption
  · cases h
    assumption
  · cases h

/-- An exponent of ten on whose grid the number itself lies. -/
def finest (r : RoundingRange) : Int := min r.exponent 0

/-- The first hit on the grids from `finest + n` down; on the finest it is the number itself. -/
def search (r : RoundingRange) : Nat → Decimal
  | 0 => ⟨r.middle * r.scale r.finest / r.step r.finest, r.finest⟩
  | n + 1 =>
    match r.nearest? (r.finest + (n + 1)) with
    | some digits => ⟨digits, r.finest + (n + 1)⟩
    | none => search r n

/-- An exponent of ten beyond the upper end of the range. The end is below `2 ^ k`, and three tenths
are a little less than the logarithm of two in base ten, thirty-one hundredths a little more. -/
def coarsest (r : RoundingRange) : Int :=
  let k := (Nat.log2 r.high : Int) + 1 + r.exponent
  if 0 ≤ k then k * 31 / 100 + 1 else k * 3 / 10 + 1

/-- The shortest decimal of the range. -/
def shortest (r : RoundingRange) : Decimal := r.search (r.coarsest - r.finest).toNat

end RoundingRange

end KeyHash
