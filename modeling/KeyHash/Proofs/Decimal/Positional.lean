import KeyHash.Proofs.Text.Digits
import Mathlib.Algebra.Field.Rat
import Mathlib.Data.List.TakeWhile

/-! # Reading decimals

A decimal whose digits are set out around the point can be read back: the digits make up a number,
and those after the point say by which power of ten it is divided (`valueIn_positional`). Zeros that
were put in front or at the end change nothing in this. -/

namespace KeyHash

/-- The number of characters after the first point of a text. -/
def placesIn (text : String) : Nat := (text.toList.dropWhile (· != '.')).tail.length

/-- The number that a text in base ten stands for, its digits set out around a point. -/
def valueIn (text : String) : ℚ := numberIn text / 10 ^ placesIn text

/-- Without a point there is nothing after it. -/
theorem placesIn_of_notMem {text : String} (h : '.' ∉ text.toList) : placesIn text = 0 := by
  have hall : ∀ c ∈ text.toList, (c != '.') = true := fun c hc =>
    bne_iff_ne.mpr fun hpoint => h (hpoint ▸ hc)
  rw [placesIn, List.dropWhile_eq_nil_iff.mpr hall, List.tail_nil, List.length_nil]

/-- The places are the characters after the first point. -/
theorem placesIn_of_toList_eq {text : String} {before after : List Char}
    (h : text.toList = before ++ '.' :: after) (hbefore : '.' ∉ before) :
    placesIn text = after.length := by
  have hall : ∀ c ∈ before, (c != '.') = true := fun c hc =>
    bne_iff_ne.mpr fun hpoint => hbefore (hpoint ▸ hc)
  rw [placesIn, h, List.dropWhile_append_of_pos hall, List.dropWhile_cons_of_neg (by decide),
    List.tail_cons]

namespace Decimal

/-- The number that a decimal is. -/
def value (d : Decimal) : ℚ := d.digits * 10 ^ d.exponent

/-- The digits of a decimal, with as many zeros in front as it takes for one digit to stand before
the point. -/
def paddedDigits (d : Decimal) : List Char :=
  List.replicate (d.exponent.natAbs + 1 - (decimalDigits d.digits).length) '0' ++
    decimalDigits d.digits

/-- There are more padded digits than come after the point. -/
theorem length_paddedDigits (d : Decimal) : d.exponent.natAbs < d.paddedDigits.length := by
  rw [paddedDigits, List.length_append, List.length_replicate]
  omega

/-- The padded digits are digits, zeros in front and all. -/
theorem filter_paddedDigits (d : Decimal) :
    d.paddedDigits.filter Char.isDigit = d.paddedDigits := by
  simp [paddedDigits]

/-- Zeros in front do not change the number. -/
theorem ofDigitChars_paddedDigits (d : Decimal) :
    Nat.ofDigitChars 10 d.paddedDigits 0 = d.digits := by
  simp [paddedDigits, Nat.ofDigitChars_append]

/-- The point is not among the padded digits. -/
theorem point_notMem_paddedDigits (d : Decimal) : '.' ∉ d.paddedDigits := by
  have hdigits : '.' ∉ decimalDigits d.digits := notMem_decimalDigits rfl _
  simp [paddedDigits, hdigits]

/-- A decimal of a whole number is its digits and zeros. -/
theorem toList_positional_of_nonneg {d : Decimal} (h : 0 ≤ d.exponent) :
    (d.positional "").toList = decimalDigits d.digits ++ List.replicate d.exponent.toNat '0' := by
  simp [positional, h]

/-- Any other decimal has a point among its digits. -/
theorem toList_positional_of_neg {d : Decimal} (h : d.exponent < 0) :
    (d.positional "").toList =
      d.paddedDigits.take (d.paddedDigits.length - d.exponent.natAbs) ++ '.' ::
        d.paddedDigits.drop (d.paddedDigits.length - d.exponent.natAbs) := by
  simp [positional, paddedDigits, Int.not_le.mpr h]

/-- The digits of a decimal make up its number, multiplied out if it is whole. -/
theorem numberIn_positional (d : Decimal) :
    numberIn (d.positional "") =
      if 0 ≤ d.exponent then d.digits * 10 ^ d.exponent.toNat else d.digits := by
  rw [numberIn, digitsIn]
  split_ifs with h
  · rw [toList_positional_of_nonneg h]
    simp [Nat.ofDigitChars_append, Nat.mul_comm]
  · -- without the point the digits before and after it are as they were
    rw [toList_positional_of_neg (Int.not_le.mp h), List.filter_append, List.filter_cons_of_neg
      (by decide), ← List.filter_append, List.take_append_drop, filter_paddedDigits,
      ofDigitChars_paddedDigits]

/-- The digits after the point are as many as the exponent says. -/
theorem placesIn_positional (d : Decimal) : placesIn (d.positional "") = (-d.exponent).toNat := by
  rcases Int.lt_or_le d.exponent 0 with h | h
  · have hlength := d.length_paddedDigits
    -- there is no point before the one that is put in
    rw [placesIn_of_toList_eq (toList_positional_of_neg h) fun hmem =>
      d.point_notMem_paddedDigits (List.mem_of_mem_take hmem), List.length_drop]
    omega
  · have hpoint : '.' ∉ (d.positional "").toList := by
      have hdigits : '.' ∉ decimalDigits d.digits := notMem_decimalDigits rfl _
      simp [toList_positional_of_nonneg h, hdigits]
    rw [placesIn_of_notMem hpoint]
    omega

/-- The text of a decimal stands for the number that it is. -/
theorem valueIn_positional (d : Decimal) : valueIn (d.positional "") = d.value := by
  rw [valueIn, numberIn_positional, placesIn_positional, value]
  rcases Int.lt_or_le d.exponent 0 with h | h
  · obtain ⟨k, hk⟩ : ∃ k : Nat, d.exponent = -k := ⟨d.exponent.natAbs, by omega⟩
    rw [if_neg (Int.not_le.mpr h), hk, neg_neg, Int.toNat_natCast, zpow_neg, zpow_natCast,
      div_eq_mul_inv]
  · obtain ⟨k, hk⟩ := Int.eq_ofNat_of_zero_le h
    rw [if_pos h, hk, Int.toNat_natCast, zpow_natCast]
    simp

/-- A decimal is written with digits and a point only. -/
theorem isDigit_or_eq_point_of_mem {d : Decimal} {c : Char} (h : c ∈ (d.positional "").toList) :
    c.isDigit = true ∨ c = '.' := by
  have hpadded : ∀ c ∈ d.paddedDigits, c.isDigit = true := by
    intro c hc
    rw [← filter_paddedDigits] at hc
    exact (List.mem_filter.mp hc).2
  rcases Int.lt_or_le d.exponent 0 with hneg | hnonneg
  · rw [toList_positional_of_neg hneg, List.mem_append, List.mem_cons] at h
    rcases h with h | h | h
    · exact .inl (hpadded c (List.mem_of_mem_take h))
    · exact .inr h
    · exact .inl (hpadded c (List.mem_of_mem_drop h))
  · rw [toList_positional_of_nonneg hnonneg, List.mem_append, List.mem_replicate] at h
    rcases h with h | ⟨-, rfl⟩
    · exact .inl (isDigit_of_mem_decimalDigits h)
    · exact .inl rfl

end Decimal

end KeyHash
