import KeyHash.Float.Text
import KeyHash.Proofs.Decimal.Shortest
import KeyHash.Proofs.Float.Equality
import Mathlib.Tactic.Linarith

/-! # Floating-point numbers from their texts

The reals that round to a number form a range around it, and the ranges of two numbers of a format
have no real in common: where they touch, one of the two significands is odd and its range open. So
the shortest decimal, which lies in the range of the number, belongs to no other, and plain text
tells all that a pattern stands for (`text_inj`): only what is not a number loses its sign and
payload. -/

namespace KeyHash

namespace FloatFormat

open FloatDatum

variable {f : FloatFormat}

/-! ## Ranges of neighbours -/

/-- Of two magnitudes of a format the lesser does not have the greater scale. -/
theorem scale_le_of_mul_lt {negative negative' : Bool} {s t k l : Nat}
    (ha : f.Holds (.finite negative s k)) (hb : f.Holds (.finite negative' t l))
    (h : s * 2 ^ k < t * 2 ^ l) : k ≤ l := by
  by_contra hlt
  rw [Nat.not_le] at hlt
  have hless : t * 2 ^ l < s * 2 ^ k := by
    calc
      t * 2 ^ l < 2 ^ (f.fractionBits + 1) * 2 ^ l :=
        Nat.mul_lt_mul_of_pos_right hb.1 (Nat.two_pow_pos l)
      _ = 2 ^ f.fractionBits * 2 ^ (l + 1) := by
        rw [Nat.pow_succ, Nat.pow_succ', Nat.mul_assoc]
      _ ≤ s * 2 ^ k :=
        Nat.mul_le_mul (ha.2 (Nat.ne_zero_of_lt hlt)) (Nat.pow_le_pow_right (by decide) hlt)
  exact Nat.lt_asymm h hless

/-- The upper end of the range of a magnitude and the lower end of that of a greater one, on the
scale of the lesser. -/
theorem high_le_low_of_lt {s t k j : Nat} (hs : s < 2 * 2 ^ f.fractionBits)
    (ht : k + j ≠ 0 → 2 ^ f.fractionBits ≤ t) (h : s < t * 2 ^ j) :
    (f.roundingRange s k).high ≤ (f.roundingRange t (k + j)).low * 2 ^ j ∧
      (s % 2 = 0 → t % 2 = 0 →
        (f.roundingRange s k).high < (f.roundingRange t (k + j)).low * 2 ^ j) := by
  simp only [roundingRange, Nat.one_shiftLeft, Bool.and_eq_true, decide_eq_true_eq]
  cases j with
  | zero =>
    -- on the same scale the significands are at least one apart
    rw [Nat.pow_zero, Nat.mul_one] at h ⊢
    split <;> omega
  | succ i =>
    have htop := ht (by omega)
    have hfactor : 1 ≤ 2 ^ i := Nat.two_pow_pos i
    rw [Nat.pow_succ']
    split
    · -- the neighbour below a power of two is half as far, and its significand is odd
      have hdouble := Nat.mul_le_mul_left ((4 * t - 1) * 2) hfactor
      rw [← Nat.mul_assoc]
      omega
    · have hdouble := Nat.mul_le_mul_left ((4 * t - 2) * 2) hfactor
      rw [← Nat.mul_assoc]
      omega

/-- The range of the lesser of two magnitudes ends where that of the greater begins, or before, and
before if both have their ends. -/
theorem high_le_low {negative negative' : Bool} {s t k l : Nat}
    (ha : f.Holds (.finite negative s k)) (hb : f.Holds (.finite negative' t l))
    (h : s * 2 ^ k < t * 2 ^ l) :
    (f.roundingRange s k).high * 2 ^ k ≤ (f.roundingRange t l).low * 2 ^ l ∧
      (s % 2 = 0 → t % 2 = 0 →
        (f.roundingRange s k).high * 2 ^ k < (f.roundingRange t l).low * 2 ^ l) := by
  obtain ⟨j, rfl⟩ := Nat.exists_eq_add_of_le (scale_le_of_mul_lt ha hb h)
  have hpos := Nat.two_pow_pos k
  rw [Nat.pow_add, Nat.mul_comm (2 ^ k), ← Nat.mul_assoc] at h ⊢
  obtain ⟨hle, hlt⟩ := high_le_low_of_lt (Nat.pow_succ' ▸ ha.1) hb.2
    (Nat.lt_of_mul_lt_mul_right h)
  exact ⟨Nat.mul_le_mul_right _ hle, fun hs ht => Nat.mul_lt_mul_of_pos_right (hlt hs ht) hpos⟩

/-! ## Ranges have nothing in common -/

/-- The unit of all ranges of a format, a quarter of its least positive value. -/
def quarter (f : FloatFormat) : ℚ := 2 ^ (f.leastExponent - 2)

/-- The unit of the ranges is positive, as every power of two is. -/
theorem quarter_pos (f : FloatFormat) : 0 < f.quarter := by
  unfold quarter
  positivity

/-- The ends of a range in units of the format. -/
theorem end_eq (f : FloatFormat) (n s k : Nat) :
    (n : ℚ) * 2 ^ (f.roundingRange s k).exponent = (n * 2 ^ k : Nat) * f.quarter := by
  have hexponent : (f.roundingRange s k).exponent = k + (f.leastExponent - 2) := by
    simp only [roundingRange, exponentAt]
    omega
  rw [hexponent, zpow_add₀ two_ne_zero, zpow_natCast, quarter]
  push_cast
  ring

/-- What rounds to a magnitude is not above its range, and below it if its ends are not in it. -/
theorem le_high_of_holds {s k : Nat} {x : ℚ} (h : (f.roundingRange s k).Holds x) :
    x ≤ ((f.roundingRange s k).high * 2 ^ k : Nat) * f.quarter ∧
      (s % 2 ≠ 0 → x < ((f.roundingRange s k).high * 2 ^ k : Nat) * f.quarter) := by
  unfold RoundingRange.Holds at h
  rw [end_eq, end_eq] at h
  split at h
  · rename_i hclosed
    exact ⟨h.2, fun hodd => absurd (of_decide_eq_true hclosed) hodd⟩
  · exact ⟨h.2.le, fun _ => h.2⟩

/-- What rounds to a magnitude is not below its range, and above it if its ends are not in it. -/
theorem low_le_of_holds {s k : Nat} {x : ℚ} (h : (f.roundingRange s k).Holds x) :
    ((f.roundingRange s k).low * 2 ^ k : Nat) * f.quarter ≤ x ∧
      (s % 2 ≠ 0 → ((f.roundingRange s k).low * 2 ^ k : Nat) * f.quarter < x) := by
  unfold RoundingRange.Holds at h
  rw [end_eq, end_eq] at h
  split at h
  · rename_i hclosed
    exact ⟨h.1, fun hodd => absurd (of_decide_eq_true hclosed) hodd⟩
  · exact ⟨h.1.le, fun _ => h.1⟩

/-- Nothing rounds to each of two magnitudes. -/
theorem not_holds_of_mul_lt {negative negative' : Bool} {s t k l : Nat} {x : ℚ}
    (ha : f.Holds (.finite negative s k)) (hb : f.Holds (.finite negative' t l))
    (hlt : s * 2 ^ k < t * 2 ^ l) (hx : (f.roundingRange s k).Holds x) :
    ¬ (f.roundingRange t l).Holds x := by
  intro hy
  obtain ⟨hle, hstrict⟩ := high_le_low ha hb hlt
  obtain ⟨hhigh, hhigh'⟩ := le_high_of_holds hx
  obtain ⟨hlow, hlow'⟩ := low_le_of_holds hy
  have hends : (((f.roundingRange s k).high * 2 ^ k : Nat) : ℚ) * f.quarter ≤
      ((f.roundingRange t l).low * 2 ^ l : Nat) * f.quarter :=
    mul_le_mul_of_nonneg_right (by exact_mod_cast hle) f.quarter_pos.le
  -- if both have their ends these are apart, and otherwise one of them does not have the end
  by_cases hs : s % 2 = 0
  · by_cases ht : t % 2 = 0
    · have hapart : (((f.roundingRange s k).high * 2 ^ k : Nat) : ℚ) * f.quarter <
          ((f.roundingRange t l).low * 2 ^ l : Nat) * f.quarter :=
        mul_lt_mul_of_pos_right (by exact_mod_cast hstrict hs ht) f.quarter_pos
      linarith
    · linarith [hlow' ht]
  · linarith [hhigh' hs]

/-- What rounds to two magnitudes shows them to be the same. -/
theorem eq_of_holds {negative negative' : Bool} {s t k l : Nat} {x : ℚ}
    (ha : f.Holds (.finite negative s k)) (hb : f.Holds (.finite negative' t l))
    (hx : (f.roundingRange s k).Holds x) (hy : (f.roundingRange t l).Holds x) :
    s = t ∧ k = l := by
  rcases Nat.lt_trichotomy (s * 2 ^ k) (t * 2 ^ l) with h | h | h
  · exact absurd hy (not_holds_of_mul_lt ha hb h hx)
  · rw [← Nat.shiftLeft_eq, ← Nat.shiftLeft_eq] at h
    exact eq_of_shiftLeft_eq ha hb h
  · exact absurd hx (not_holds_of_mul_lt hb ha h hy)

/-! ## Magnitudes from their texts -/

/-- The shortest decimal of a magnitude that is not zero rounds to it. -/
theorem holds_shortest (f : FloatFormat) {s : Nat} (hs : s ≠ 0) (k : Nat) :
    (f.roundingRange s k).Holds (f.shortest s k).value := by
  rw [shortest, if_neg hs]
  apply RoundingRange.holds_shortest
  · simp only [roundingRange]
    split <;> omega
  · simp only [roundingRange]
    omega

/-- The shortest decimal of a magnitude is zero for zero only. -/
theorem value_shortest_eq_zero_iff {s k : Nat} : (f.shortest s k).value = 0 ↔ s = 0 := by
  constructor
  · intro h
    by_contra hs
    have hlow := (low_le_of_holds (f.holds_shortest hs k)).1
    have hpos : 0 < (f.roundingRange s k).low * 2 ^ k := by
      apply Nat.mul_pos _ (Nat.two_pow_pos k)
      simp only [roundingRange]
      split <;> omega
    have hbelow : (0 : ℚ) < ((f.roundingRange s k).low * 2 ^ k : Nat) * f.quarter :=
      mul_pos (by exact_mod_cast hpos) f.quarter_pos
    linarith
  · rintro rfl
    simp [shortest, Decimal.value]

/-- Magnitudes of the same shortest decimal are the same. -/
theorem eq_of_value_shortest_eq {negative negative' : Bool} {s t k l : Nat}
    (ha : f.Holds (.finite negative s k)) (hb : f.Holds (.finite negative' t l))
    (h : (f.shortest s k).value = (f.shortest t l).value) : s = t ∧ k = l := by
  by_cases hs : s = 0
  · have ht : t = 0 := value_shortest_eq_zero_iff.mp (h ▸ value_shortest_eq_zero_iff.mpr hs)
    exact eq_of_shiftLeft_eq ha hb (by rw [hs, ht, Nat.zero_shiftLeft, Nat.zero_shiftLeft])
  · have ht : t ≠ 0 := fun ht => hs (value_shortest_eq_zero_iff.mp (h.trans
      (value_shortest_eq_zero_iff.mpr ht)))
    exact eq_of_holds ha hb (f.holds_shortest hs k) (h ▸ f.holds_shortest ht l)

/-! ## Data from their texts -/

/-- A finite datum in plain text is its sign and its shortest decimal, with the digits set out. -/
theorem text_finite (f : FloatFormat) (negative : Bool) (s k : Nat) :
    f.text plainLayout none (.finite negative s k) =
      signText negative ++ (f.shortest s k).positional "" := rfl

/-- The sign of a decimal changes nothing in the magnitude that is read. -/
theorem valueIn_signText_append (negative : Bool) (text : String) :
    valueIn (signText negative ++ text) = valueIn text := by
  cases negative with
  | false =>
    have hempty : signText false = "" := rfl
    rw [hempty, String.empty_append]
  | true =>
    have hdigits : digitsIn (signText true) = [] := by decide
    have hsign : (signText true).toList = ['-'] := by decide
    simp [valueIn, numberIn, placesIn, hdigits, hsign]

/-- A finite datum is written with digits, a point and a minus only. -/
theorem isDigit_or_of_mem_text {negative : Bool} {s k : Nat} {c : Char}
    (h : c ∈ (f.text plainLayout none (.finite negative s k)).toList) :
    c.isDigit = true ∨ c = '.' ∨ c = '-' := by
  rw [text_finite, String.toList_append, List.mem_append] at h
  rcases h with h | h
  · cases negative with
    | false => simp [signText] at h
    | true => exact .inr (.inr (by simpa [signText] using h))
  · exact (Decimal.isDigit_or_eq_point_of_mem h).imp_right .inl

/-- A finite datum has a minus exactly if it is negative. -/
theorem minus_mem_text_iff {negative : Bool} {s k : Nat} :
    '-' ∈ (f.text plainLayout none (.finite negative s k)).toList ↔ negative = true := by
  have hnot : '-' ∉ ((f.shortest s k).positional "").toList := fun h =>
    absurd (Decimal.isDigit_or_eq_point_of_mem h) (by decide)
  rw [text_finite, String.toList_append, List.mem_append]
  cases negative <;> simp [signText, hnot]

/-- What is in the text of a finite datum. -/
theorem notMem_text_finite {negative : Bool} {s k : Nat} {c : Char} (hdigit : c.isDigit = false)
    (hpoint : c ≠ '.') (hminus : c ≠ '-') :
    c ∉ (f.text plainLayout none (.finite negative s k)).toList := by
  intro h
  obtain hc | hc | hc := isDigit_or_of_mem_text h
  · rw [hdigit] at hc
    cases hc
  · exact hpoint hc
  · exact hminus hc

/-- What is not a number is told by its capital letter. -/
theorem capital_mem_text_iff (f : FloatFormat) {a : FloatDatum} :
    'N' ∈ (f.text plainLayout none a).toList ↔ a = .nan := by
  cases a with
  | nan => simp [text]
  | infinite negative => cases negative <;> simp [text, signText]
  | finite negative s k =>
    simpa using notMem_text_finite (by decide) (by decide) (by decide)

/-- An infinity is told by a letter that it shares with no other datum. -/
theorem letter_mem_text_iff (f : FloatFormat) {a : FloatDatum} :
    'f' ∈ (f.text plainLayout none a).toList ↔ ∃ negative, a = .infinite negative := by
  cases a with
  | nan => simp [text]
  | infinite negative => cases negative <;> simp [text, signText]
  | finite negative s k =>
    simpa using notMem_text_finite (by decide) (by decide) (by decide)

/-- No datum has a plus. -/
theorem plus_notMem_text (f : FloatFormat) (a : FloatDatum) :
    '+' ∉ (f.text plainLayout none a).toList := by
  cases a with
  | nan => simp [text]
  | infinite negative => cases negative <;> simp [text, signText]
  | finite negative s k => exact notMem_text_finite (by decide) (by decide) (by decide)

/-- Data of a format that have the same plain text are the same. -/
theorem text_inj {a b : FloatDatum} (ha : f.Holds a) (hb : f.Holds b)
    (h : f.text plainLayout none a = f.text plainLayout none b) : a = b := by
  -- letters tell what is not a finite number, a minus the sign, and the digits the magnitude
  have hnan : a = .nan ↔ b = .nan := by
    rw [← f.capital_mem_text_iff, h, f.capital_mem_text_iff]
  have hinfinite : (∃ m, a = .infinite m) ↔ ∃ n, b = .infinite n := by
    rw [← f.letter_mem_text_iff, h, f.letter_mem_text_iff]
  cases a with
  | nan => exact (hnan.mp rfl).symm
  | infinite m =>
    obtain ⟨n, rfl⟩ := hinfinite.mp ⟨m, rfl⟩
    cases m <;> cases n <;> simp [text, signText] at h ⊢
  | finite m s k =>
    cases b with
    | nan => exact hnan.mpr rfl
    | infinite n =>
      obtain ⟨_, heq⟩ := hinfinite.mpr ⟨n, rfl⟩
      cases heq
    | finite n t l =>
      have hsign : m = n := by
        rw [Bool.eq_iff_iff, ← minus_mem_text_iff, h, minus_mem_text_iff]
      have hvalue : (f.shortest s k).value = (f.shortest t l).value := by
        have hread := congrArg valueIn h
        rwa [text_finite, text_finite, valueIn_signText_append, valueIn_signText_append,
          Decimal.valueIn_positional, Decimal.valueIn_positional] at hread
      obtain ⟨rfl, rfl⟩ := eq_of_value_shortest_eq ha hb hvalue
      rw [hsign]

/-! ## Patterns of the same datum -/

/-- Patterns stand for the same exactly if they are the same or neither is a number. -/
theorem datum_eq_iff {a b : Nat} (ha : a < 2 ^ (f.fractionBits + f.exponentBits + 1))
    (hb : b < 2 ^ (f.fractionBits + f.exponentBits + 1)) :
    f.datum a = f.datum b ↔ a = b ∨ (f.datum a = .nan ∧ f.datum b = .nan) := by
  constructor
  · intro h
    by_cases hnan : f.datum a = .nan
    · exact .inr ⟨hnan, h ▸ hnan⟩
    · exact .inl (eq_of_datum_eq ha hb hnan h)
  · rintro (rfl | ⟨ha, hb⟩)
    · rfl
    · rw [ha, hb]

end FloatFormat

/-- Numbers of 32 bits stand for the same exactly if they are the same or neither is a number. -/
theorem Binary32.datum_eq_iff {x y : Binary32} :
    x.datum = y.datum ↔ x = y ∨ (x.datum = .nan ∧ y.datum = .nan) := by
  rw [← bits_inj, ← UInt32.toNat_inj]
  exact FloatFormat.datum_eq_iff x.bits_lt y.bits_lt

/-- Numbers of 64 bits stand for the same exactly if they are the same or neither is a number. -/
theorem Binary64.datum_eq_iff {x y : Binary64} :
    x.datum = y.datum ↔ x = y ∨ (x.datum = .nan ∧ y.datum = .nan) := by
  rw [← bits_inj, ← UInt64.toNat_inj]
  exact FloatFormat.datum_eq_iff x.bits_lt y.bits_lt

end KeyHash
