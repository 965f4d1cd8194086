import KeyHash.Decimal.Basic
import Mathlib.Logic.Function.Basic

/-! # Digits in texts

A numeral in base ten consists of digits, and they can be read back, so a text in which there are no
other digits tells the number. An integer has a sign before its digits only if it is negative, and
is told by its text too (`integerText_injective`). -/

namespace KeyHash

/-! ## Numerals -/

/-- Numerals consist of digits. -/
theorem isDigit_of_mem_decimalDigits {n : Nat} {c : Char} (h : c ∈ decimalDigits n) :
    c.isDigit = true :=
  Nat.isDigit_of_mem_toDigits (by decide) (by decide) h

/-- What is not a digit is in no numeral. -/
theorem notMem_decimalDigits {c : Char} (hc : c.isDigit = false) (n : Nat) :
    c ∉ decimalDigits n := by
  intro h
  rw [isDigit_of_mem_decimalDigits h] at hc
  cases hc

/-- A numeral is read back as the number that it was written for. -/
@[simp] theorem ofDigitChars_decimalDigits (n : Nat) :
    Nat.ofDigitChars 10 (decimalDigits n) 0 = n :=
  Nat.ofDigitChars_ten_toDigits

/-- Nothing is lost of a numeral when only digits are kept. -/
@[simp] theorem filter_isDigit_decimalDigits (n : Nat) :
    (decimalDigits n).filter Char.isDigit = decimalDigits n :=
  List.filter_eq_self.mpr fun _ => isDigit_of_mem_decimalDigits

/-! ## Digits and words of a text -/

/-- The digits of a text, in order. -/
def digitsIn (text : String) : List Char := text.toList.filter Char.isDigit

/-- A text without its digits. -/
def wordsIn (text : String) : List Char := text.toList.filter (!·.isDigit)

/-- The number that the digits of a text make up. -/
def numberIn (text : String) : Nat := Nat.ofDigitChars 10 (digitsIn text) 0

/-- The digits of two texts are those of the first, then those of the second. -/
@[simp] theorem digitsIn_append (a b : String) : digitsIn (a ++ b) = digitsIn a ++ digitsIn b := by
  simp [digitsIn]

/-- The words of two texts are those of the first, then those of the second. -/
@[simp] theorem wordsIn_append (a b : String) : wordsIn (a ++ b) = wordsIn a ++ wordsIn b := by
  simp [wordsIn]

/-- A numeral is all digits. -/
@[simp] theorem digitsIn_ofList_decimalDigits (n : Nat) :
    digitsIn (String.ofList (decimalDigits n)) = decimalDigits n := by
  rw [digitsIn, String.toList_ofList, filter_isDigit_decimalDigits]

/-- The text of a number is all digits. -/
@[simp] theorem digitsIn_repr (n : Nat) : digitsIn n.repr = decimalDigits n := by
  rw [Nat.repr_eq_ofList_toDigits]
  exact digitsIn_ofList_decimalDigits n

/-- The text of a number has nothing else. -/
@[simp] theorem wordsIn_repr (n : Nat) : wordsIn n.repr = [] := by
  rw [wordsIn, Nat.toList_repr, List.filter_eq_nil_iff]
  intro c hc
  simp [isDigit_of_mem_decimalDigits hc]

/-! ## Integers -/

/-- The digits of an integer are those of its magnitude. -/
theorem numberIn_integerText (i : Int) : numberIn (integerText i) = i.natAbs := by
  have hminus : digitsIn "-" = [] := by decide
  have hnothing : digitsIn "" = [] := by decide
  rw [numberIn, integerText, digitsIn_append, digitsIn_ofList_decimalDigits]
  split <;> simp [hminus, hnothing]

/-- An integer has a minus exactly if it is negative. -/
theorem minus_mem_integerText_iff {i : Int} : '-' ∈ (integerText i).toList ↔ i < 0 := by
  have hdigits : '-' ∉ decimalDigits i.natAbs := notMem_decimalDigits rfl _
  rw [integerText]
  split <;> simp_all

/-- An integer has no other sign. -/
theorem plus_notMem_integerText (i : Int) : '+' ∉ (integerText i).toList := by
  have hdigits : '+' ∉ decimalDigits i.natAbs := notMem_decimalDigits rfl _
  rw [integerText]
  split <;> simp_all

/-- An integer is told by its text. -/
theorem integerText_injective : Function.Injective integerText := by
  intro i j h
  have hmagnitude : i.natAbs = j.natAbs := by
    rw [← numberIn_integerText, h, numberIn_integerText]
  have hsign : i < 0 ↔ j < 0 := by
    rw [← minus_mem_integerText_iff, h, minus_mem_integerText_iff]
  omega

end KeyHash
