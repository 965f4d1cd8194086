import KeyHash.Text.Extending
import KeyHash.Text.Unprintable

/-! # Quoted texts

A text in double quotes, with a backslash before whatever would be misread: the quote and the
backslash themselves, the common controls, which have letters, and every other character that a
reader could not see or tell apart, which is written by its code point. Which characters are left as
they are is said by `escape_eq_self_iff`. -/

namespace KeyHash.Text

/-- A character by its code point in hexadecimal. -/
def codePoint (c : Char) : List Char := ['\\', 'u', '\x7b'] ++ Nat.toDigits 16 c.toNat ++ ['\x7d']

/-- A character as it stands inside quotes. -/
def escape (c : Char) : List Char :=
  match c with
  | '\x00' => ['\\', '0']
  | '\t' => ['\\', 't']
  | '\n' => ['\\', 'n']
  | '\r' => ['\\', 'r']
  | '"' => ['\\', '"']
  | '\\' => ['\\', '\\']
  | _ => if isExtending c || isUnprintable c then codePoint c else [c]

/-- A code point is written with more than one character. -/
theorem codePoint_ne_self (c : Char) : codePoint c ≠ [c] := by
  intro h
  have hlength := congrArg List.length h
  simp [codePoint] at hlength

/-- A character stands for itself inside quotes exactly if it is neither the quote nor the backslash
nor a control with a letter, and lies in none of the ranges of what cannot be seen or told apart. -/
theorem escape_eq_self_iff {c : Char} :
    escape c = [c] ↔
      c ∉ ['\x00', '\t', '\n', '\r', '"', '\\'] ∧
        ∀ range ∈ extendingRanges ++ unprintableRanges,
          ¬ (range.1 ≤ c.toNat ∧ c.toNat ≤ range.2) := by
  have hranges : (isExtending c || isUnprintable c) = true ↔
      ∃ range ∈ extendingRanges ++ unprintableRanges,
        range.1 ≤ c.toNat ∧ c.toNat ≤ range.2 := by
    rw [Bool.or_eq_true, isExtending_iff, isUnprintable_iff]
    simp only [List.mem_append, or_and_right, exists_or]
  unfold escape
  split
  case h_7 hnul htab hline hreturn hquote hbackslash =>
    have hplain : c ∉ ['\x00', '\t', '\n', '\r', '"', '\\'] := by
      simp only [List.mem_cons, List.not_mem_nil, or_false, not_or]
      exact ⟨hnul, htab, hline, hreturn, hquote, hbackslash⟩
    rw [and_iff_right hplain]
    by_cases h : (isExtending c || isUnprintable c) = true
    · rw [if_pos h]
      obtain ⟨range, hmem, hin⟩ := hranges.mp h
      exact iff_of_false (codePoint_ne_self c) fun hnone => hnone range hmem hin
    · rw [if_neg h]
      exact iff_of_true rfl fun range hmem hin => h (hranges.mpr ⟨range, hmem, hin⟩)
  -- a backslash comes before each of the others, so that there are two characters
  all_goals exact iff_of_false (by decide) fun h => h.1 (by decide)

/-- A text in quotes. -/
def quote (s : String) : String := "\"" ++ String.ofList (s.toList.flatMap escape) ++ "\""

end KeyHash.Text
