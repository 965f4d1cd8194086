import KeyHash.Decimal.Basic

/-! # Decimals with a fixed number of places

A fraction is rounded to the nearest multiple of a power of ten; of two that are equally near the
even one is taken. -/

namespace KeyHash

/-- The whole number nearest to a fraction, the even one if two are equally near. -/
def roundHalfEven (numerator denominator : Nat) : Nat :=
  let whole := numerator / denominator
  let twice := 2 * (numerator % denominator)
  if twice < denominator then whole
  else if denominator < twice then whole + 1
  else whole + whole % 2

/-- The rounded number is at most half a unit away from the fraction. -/
theorem roundHalfEven_near (n : Nat) {d : Nat} (hd : 0 < d) :
    2 * n ≤ 2 * (d * roundHalfEven n d) + d ∧ 2 * (d * roundHalfEven n d) ≤ 2 * n + d := by
  have hsplit := Nat.div_add_mod n d
  have hrem := Nat.mod_lt n hd
  have heven : n / d % 2 = 0 ∨ n / d % 2 = 1 := Nat.mod_two_eq_zero_or_one _
  simp only [roundHalfEven]
  split
  · omega
  · split
    · rw [Nat.mul_add]
      omega
    · -- exactly half a unit away, on either side
      rcases heven with h | h <;> rw [h, Nat.mul_add] <;> omega

/-- A fraction halfway between two whole numbers goes to the even one. -/
theorem roundHalfEven_half (n : Nat) {d : Nat} (h : 2 * (n % d) = d) :
    roundHalfEven n d % 2 = 0 := by
  simp only [roundHalfEven]
  rw [if_neg (by omega), if_neg (by omega)]
  omega

/-- The number `significand * 2 ^ exponent`, rounded to a number of places. -/
def Decimal.ofBinary (places significand : Nat) (exponent : Int) : Decimal where
  digits :=
    roundHalfEven ((significand <<< exponent.toNat) * powerOfTen places) (1 <<< (-exponent).toNat)
  exponent := -places

end KeyHash
