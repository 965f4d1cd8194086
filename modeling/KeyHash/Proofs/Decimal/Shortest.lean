import KeyHash.Decimal.Shortest
import KeyHash.Proofs.Decimal.Positional
import Mathlib.Algebra.Order.Field.Power
import Mathlib.Tactic.Positivity
import Mathlib.Tactic.Ring

/-! # The shortest decimal lies in its range

A range of reals is searched for a decimal by comparing whole numbers on a common scale. Here the
comparisons are said of the numbers themselves (`contains_iff`), and whatever the search ends with
is found to lie in the range (`holds_shortest`): a multiple that it hits does, and on the finest
grid it ends with the middle of the range, exactly. -/

namespace KeyHash.RoundingRange

variable {r : RoundingRange} {e : Int}

/-- Whether a number rounds to the middle of the range. -/
def Holds (r : RoundingRange) (x : ℚ) : Prop :=
  if r.closed then (r.low : ℚ) * 2 ^ r.exponent ≤ x ∧ x ≤ r.high * 2 ^ r.exponent
  else (r.low : ℚ) * 2 ^ r.exponent < x ∧ x < r.high * 2 ^ r.exponent

/-! ## The common scale -/

/-- Powers of ten with negative exponents count as one. -/
theorem powerOfTen_eq (e : Int) : powerOfTen e = 10 ^ e.toNat := rfl

/-- A power with its negative exponents left out is the power times what was left out. -/
theorem pow_toNat_eq {b : ℚ} (hb : b ≠ 0) (e : Int) : b ^ e.toNat = b ^ e * b ^ (-e).toNat := by
  rw [← zpow_natCast, ← zpow_natCast, ← zpow_add₀ hb]
  congr 1
  omega

/-- What numbers are multiplied by on the common scale of a range and a grid. -/
def unit (r : RoundingRange) (e : Int) : ℚ := 10 ^ (-e).toNat * 2 ^ (-r.exponent).toNat

/-- The unit is positive, so comparisons on the common scale are those of the numbers. -/
theorem unit_pos (r : RoundingRange) (e : Int) : 0 < r.unit e := by
  unfold unit
  positivity

/-- A number of the range on the common scale. -/
theorem cast_mul_scale (r : RoundingRange) (e : Int) (n : Nat) :
    ((n * r.scale e : Nat) : ℚ) = n * 2 ^ r.exponent * r.unit e := by
  rw [scale, powerOfTen_eq, Nat.shiftLeft_eq, unit]
  push_cast
  rw [pow_toNat_eq two_ne_zero r.exponent]
  ring

/-- A multiple of the grid on the common scale. -/
theorem cast_mul_step (r : RoundingRange) (e : Int) (n : Nat) :
    ((n * r.step e : Nat) : ℚ) = n * 10 ^ e * r.unit e := by
  rw [step, powerOfTen_eq, Nat.shiftLeft_eq, unit]
  push_cast
  rw [pow_toNat_eq (by norm_num : (10 : ℚ) ≠ 0) e]
  ring

/-- Multiples are found in a range exactly if they lie in it. -/
theorem contains_iff {n : Nat} : r.contains e n = true ↔ r.Holds (n * 10 ^ e) := by
  have hunit := r.unit_pos e
  have hle (a b : Nat) (x y : ℚ) (ha : (a : ℚ) = x * r.unit e) (hb : (b : ℚ) = y * r.unit e) :
      (a ≤ b ↔ x ≤ y) ∧ (a < b ↔ x < y) := by
    rw [← Nat.cast_le (α := ℚ), ← Nat.cast_lt (α := ℚ), ha, hb]
    exact ⟨mul_le_mul_iff_of_pos_right hunit, mul_lt_mul_iff_of_pos_right hunit⟩
  have hlow := hle _ _ _ _ (r.cast_mul_scale e r.low) (r.cast_mul_step e n)
  have hhigh := hle _ _ _ _ (r.cast_mul_step e n) (r.cast_mul_scale e r.high)
  simp only [contains, Holds]
  split
  · simp [hlow.1, hhigh.1]
  · simp [hlow.2, hhigh.2]

/-! ## The search -/

/-- The middle lies in the range. -/
theorem holds_middle (hlow : r.low < r.middle) (hhigh : r.middle < r.high) :
    r.Holds (r.middle * 2 ^ r.exponent) := by
  have hpow : (0 : ℚ) < 2 ^ r.exponent := by positivity
  have hbelow : (r.low : ℚ) * 2 ^ r.exponent < r.middle * 2 ^ r.exponent :=
    (mul_lt_mul_iff_of_pos_right hpow).mpr (by exact_mod_cast hlow)
  have habove : (r.middle : ℚ) * 2 ^ r.exponent < r.high * 2 ^ r.exponent :=
    (mul_lt_mul_iff_of_pos_right hpow).mpr (by exact_mod_cast hhigh)
  unfold Holds
  split
  · exact ⟨hbelow.le, habove.le⟩
  · exact ⟨hbelow, habove⟩

/-- On the finest grid whole numbers of the range are multiples. -/
theorem step_finest_dvd (r : RoundingRange) : r.step r.finest ∣ r.scale r.finest := by
  rw [step, scale, powerOfTen_eq, powerOfTen_eq, Nat.shiftLeft_eq, Nat.shiftLeft_eq, finest]
  rcases Int.lt_or_le r.exponent 0 with h | h
  · -- a power of two divides the one of ten
    rw [Int.min_eq_left h.le, Int.toNat_of_nonpos h.le, pow_zero, one_mul, pow_zero, mul_one]
    exact pow_dvd_pow_of_dvd (by decide) _
  · rw [Int.min_eq_right h, Int.toNat_of_nonpos (show -r.exponent ≤ 0 by omega)]
    simp

/-- On the finest grid the search ends with the middle of the range. -/
theorem value_search_zero (r : RoundingRange) : (r.search 0).value = r.middle * 2 ^ r.exponent := by
  have hmul : r.middle * r.scale r.finest / r.step r.finest * r.step r.finest =
      r.middle * r.scale r.finest :=
    Nat.div_mul_cancel (Nat.dvd_mul_left_of_dvd r.step_finest_dvd _)
  -- nothing is lost in the division, so the equation holds of the reals, off the common scale
  have hcast := congrArg (Nat.cast : Nat → ℚ) hmul
  rw [cast_mul_step, cast_mul_scale] at hcast
  exact mul_right_cancel₀ (r.unit_pos r.finest).ne' hcast

/-- The search ends in the range. -/
theorem holds_search (hlow : r.low < r.middle) (hhigh : r.middle < r.high) (n : Nat) :
    r.Holds (r.search n).value := by
  -- a multiple that is found was compared with the ends, and if none is, the middle is left
  induction n with
  | zero =>
    rw [value_search_zero]
    exact holds_middle hlow hhigh
  | succ n ih =>
    unfold search
    split
    · rename_i digits hfound
      exact contains_iff.mp (contains_of_nearest? hfound)
    · exact ih

/-- The shortest decimal of a range lies in it. -/
theorem holds_shortest (hlow : r.low < r.middle) (hhigh : r.middle < r.high) :
    r.Holds r.shortest.value :=
  holds_search hlow hhigh _

end KeyHash.RoundingRange
