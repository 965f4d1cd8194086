/-! # Ranges of characters

A class of characters is written as the list of its ranges of code points, both ends included, in
ascending order. The order lets a search stop at the first range that begins beyond the character,
and `inRanges_iff` says that nothing is missed by that. -/

namespace KeyHash

/-- Whether the code point of a character lies in one of the ranges. -/
def inRanges (c : Char) : List (Nat × Nat) → Bool
  | [] => false
  | (first, last) :: ranges =>
    if c.toNat < first then false else c.toNat ≤ last || inRanges c ranges

/-- Whether the ranges lie one beyond the other, the first of them from `start` on. -/
def ascendingFrom (start : Nat) : List (Nat × Nat) → Bool
  | [] => true
  | (first, last) :: ranges => start ≤ first && first ≤ last && ascendingFrom (last + 1) ranges

/-- No range begins before the start. -/
theorem start_le_of_ascendingFrom {start : Nat} {ranges : List (Nat × Nat)}
    (h : ascendingFrom start ranges = true) {range : Nat × Nat} (hmem : range ∈ ranges) :
    start ≤ range.1 := by
  induction ranges generalizing start with
  | nil => cases hmem
  | cons head ranges ih =>
    obtain ⟨first, last⟩ := head
    simp only [ascendingFrom, Bool.and_eq_true, decide_eq_true_eq] at h
    rcases List.mem_cons.mp hmem with rfl | htail
    · exact h.1.1
    · have hlater := ih h.2 htail
      omega

/-- In ascending ranges, a character is found exactly if it lies between the ends of one of them. -/
theorem inRanges_iff {c : Char} {start : Nat} {ranges : List (Nat × Nat)}
    (h : ascendingFrom start ranges = true) :
    inRanges c ranges = true ↔ ∃ range ∈ ranges, range.1 ≤ c.toNat ∧ c.toNat ≤ range.2 := by
  induction ranges generalizing start with
  | nil => simp [inRanges]
  | cons head ranges ih =>
    obtain ⟨first, last⟩ := head
    simp only [ascendingFrom, Bool.and_eq_true, decide_eq_true_eq] at h
    unfold inRanges
    split
    · -- this range and all later ones begin beyond the character
      simp only [Bool.false_eq_true, false_iff, not_exists, not_and, List.mem_cons]
      rintro range (rfl | hmem) hle
      · omega
      · have hlater := start_le_of_ascendingFrom h.2 hmem
        omega
    · have hstart : first ≤ c.toNat := by omega
      simp [-Prod.exists, ih h.2, hstart]

end KeyHash
