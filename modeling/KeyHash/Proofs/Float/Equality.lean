import KeyHash.Float.Binary
import Mathlib.Algebra.Order.Ring.Nat

/-! # When floating-point numbers are equal

Comparison goes by the numbers denoted, and still it sees nearly every bit: a number that is not
zero has one pattern only. So two patterns of a format are equal as numbers exactly if they are the
same pattern of a number, or those of the two zeros (`equal_datum_iff`). Comparison is symmetric and
transitive, and reflexive except on what is not a number. -/

namespace KeyHash

namespace FloatDatum

/-- Zero with a sign. -/
def zero (negative : Bool) : FloatDatum := .finite negative 0 0

/-- One is a zero and the other the zero of the other sign. -/
def OppositeZeros (a b : FloatDatum) : Prop := ∃ negative, a = zero negative ∧ b = zero !negative

/-! ## Comparison of data -/

/-- Data are equal if both are numbers, and the same number. -/
theorem equal_iff {a b : FloatDatum} :
    a.equal b = true ↔ ∃ x, a.number? = some x ∧ b.number? = some x := by
  unfold equal
  cases ha : a.number? with
  | none => simp
  | some x =>
    cases hb : b.number? with
    | none => simp
    | some y => simp [eq_comm]

/-- Comparison does not depend on which of the two comes first. -/
theorem equal_symm {a b : FloatDatum} (h : a.equal b = true) : b.equal a = true := by
  obtain ⟨x, ha, hb⟩ := equal_iff.mp h
  exact equal_iff.mpr ⟨x, hb, ha⟩

/-- What is equal to the same is equal. -/
theorem equal_trans {a b c : FloatDatum} (hab : a.equal b = true) (hbc : b.equal c = true) :
    a.equal c = true := by
  obtain ⟨x, ha, hb⟩ := equal_iff.mp hab
  obtain ⟨y, hb', hc⟩ := equal_iff.mp hbc
  have hxy : x = y := Option.some.inj (hb.symm.trans hb')
  exact equal_iff.mpr ⟨x, ha, hxy ▸ hc⟩

/-- Only what is not a number denotes no number. -/
theorem number?_eq_none_iff {a : FloatDatum} : a.number? = none ↔ a = .nan := by
  cases a <;> simp [number?]

/-- What is not a number is not equal to itself, and nothing else is so. -/
theorem equal_self_iff {a : FloatDatum} : a.equal a = true ↔ a ≠ .nan := by
  rw [equal_iff, Ne, ← number?_eq_none_iff, Option.eq_none_iff_forall_ne_some]
  simp only [and_self, not_forall, not_not]

/-- A zero does not have both signs. -/
theorem not_oppositeZeros_self (a : FloatDatum) : ¬ a.OppositeZeros a := by
  rintro ⟨negative, rfl, h⟩
  cases negative <;> cases h

/-- The two zeros are equal. -/
theorem equal_of_oppositeZeros {a b : FloatDatum} (h : a.OppositeZeros b) : a.equal b = true := by
  obtain ⟨negative, rfl, rfl⟩ := h
  cases negative <;> decide

end FloatDatum

/-! ## Data of a format -/

namespace FloatFormat

open FloatDatum

/-- What the patterns of a format stand for: a significand that is scaled has its leading bit. -/
def Holds (f : FloatFormat) : FloatDatum → Prop
  | .finite _ significand scale =>
    significand < 2 ^ (f.fractionBits + 1) ∧ (scale ≠ 0 → 2 ^ f.fractionBits ≤ significand)
  | .nan | .infinite _ => True

/-- The fraction of a pattern fits into its bits. -/
theorem fraction_lt (f : FloatFormat) (bits : Nat) : f.fraction bits < 2 ^ f.fractionBits := by
  rw [fraction, Nat.one_shiftLeft]
  exact Nat.mod_lt _ (Nat.two_pow_pos _)

/-- Patterns stand for data of their format. -/
theorem holds_datum (f : FloatFormat) (bits : Nat) : f.Holds (f.datum bits) := by
  have hlt := f.fraction_lt bits
  have hpow : 2 ^ (f.fractionBits + 1) = 2 * 2 ^ f.fractionBits := Nat.pow_succ'
  unfold datum
  split_ifs
  · trivial
  · trivial
  · refine ⟨by omega, fun h => absurd rfl h⟩
  · rw [Nat.one_shiftLeft]
    exact ⟨by omega, fun _ => Nat.le_add_right _ _⟩

/-- A magnitude has one significand and scale in a format. -/
theorem scale_le_of_shiftLeft_eq {n s t k l : Nat} (hs : s < 2 ^ (n + 1))
    (ht : l ≠ 0 → 2 ^ n ≤ t) (h : s <<< k = t <<< l) : l ≤ k := by
  by_contra hlt
  rw [Nat.not_le] at hlt
  have htop : 2 ^ n ≤ t := ht (Nat.ne_zero_of_lt hlt)
  have hless : s <<< k < t <<< l := by
    calc
      s <<< k = s * 2 ^ k := Nat.shiftLeft_eq s k
      _ < 2 ^ (n + 1) * 2 ^ k := Nat.mul_lt_mul_of_pos_right hs (Nat.two_pow_pos k)
      _ = 2 ^ n * 2 ^ (k + 1) := by rw [Nat.pow_succ, Nat.pow_succ', Nat.mul_assoc]
      _ ≤ t * 2 ^ l := Nat.mul_le_mul htop (Nat.pow_le_pow_right (by decide) hlt)
      _ = t <<< l := (Nat.shiftLeft_eq t l).symm
  exact absurd h (Nat.ne_of_lt hless)

/-- Finite data of the same magnitude have the same significand and scale. -/
theorem eq_of_shiftLeft_eq {f : FloatFormat} {m n : Bool} {s t k l : Nat}
    (ha : f.Holds (.finite m s k)) (hb : f.Holds (.finite n t l)) (h : s <<< k = t <<< l) :
    s = t ∧ k = l := by
  have hkl : k = l :=
    Nat.le_antisymm (scale_le_of_shiftLeft_eq hb.1 ha.2 h.symm)
      (scale_le_of_shiftLeft_eq ha.1 hb.2 h)
  subst hkl
  rw [Nat.shiftLeft_eq, Nat.shiftLeft_eq] at h
  exact ⟨Nat.eq_of_mul_eq_mul_right (Nat.two_pow_pos k) h, rfl⟩

/-- The only finite data of no magnitude are the zeros. -/
theorem eq_zero_of_shiftLeft_eq_zero {f : FloatFormat} {negative : Bool} {s k : Nat}
    (ha : f.Holds (.finite negative s k)) (h : s <<< k = 0) :
    FloatDatum.finite negative s k = zero negative := by
  obtain ⟨rfl, rfl⟩ := eq_of_shiftLeft_eq (n := negative) (t := 0) (l := 0) ha
    ⟨Nat.two_pow_pos _, fun h => absurd rfl h⟩ h
  rfl

/-- Signed numbers that are equal have the same magnitude and, unless they are zero, sign. -/
theorem eq_of_signed_eq {m n : Bool} {p q : Nat}
    (h : (if m then -(p : Int) else p) = if n then -(q : Int) else q) :
    p = q ∧ (m = n ∨ p = 0) := by
  cases m <;> cases n <;> simp at h ⊢ <;> omega

/-- Data of one format that are the same number are the same, or are the two zeros. -/
theorem eq_or_oppositeZeros {f : FloatFormat} {a b : FloatDatum} (ha : f.Holds a) (hb : f.Holds b)
    (h : a.equal b = true) : a = b ∨ a.OppositeZeros b := by
  obtain ⟨x, hax, hbx⟩ := equal_iff.mp h
  have hnumber : a.number? = b.number? := hax.trans hbx.symm
  cases a with
  | nan => cases hax
  | infinite m =>
    cases b with
    | nan => cases hbx
    | infinite n =>
      left
      simpa only [number?, Option.some.injEq, FloatNumber.infinite.injEq, infinite.injEq]
        using hnumber
    | finite n t l => cases hnumber
  | finite m s k =>
    cases b with
    | nan => cases hbx
    | infinite n => cases hnumber
    | finite n t l =>
      simp only [number?, Option.some.injEq, FloatNumber.multiple.injEq] at hnumber
      obtain ⟨hmagnitude, hsign⟩ := eq_of_signed_eq hnumber
      by_cases hsame : m = n
      · left
        obtain ⟨rfl, rfl⟩ := eq_of_shiftLeft_eq ha hb hmagnitude
        rw [hsame]
      · -- of different signs there is only zero
        right
        have hnone : s <<< k = 0 := hsign.resolve_left hsame
        refine ⟨m, eq_zero_of_shiftLeft_eq_zero ha hnone, ?_⟩
        rw [eq_zero_of_shiftLeft_eq_zero hb (hmagnitude.symm.trans hnone),
          Bool.eq_not_of_ne (Ne.symm hsame)]

/-! ## From data to patterns -/

/-- The patterns of a format: a sign above an exponent above a fraction. -/
theorem eq_of_fields_eq {f : FloatFormat} {a b : Nat}
    (ha : a < 2 ^ (f.fractionBits + f.exponentBits + 1))
    (hb : b < 2 ^ (f.fractionBits + f.exponentBits + 1))
    (hsign : f.isNegative a = f.isNegative b)
    (hexponent : f.biasedExponent a = f.biasedExponent b)
    (hfraction : f.fraction a = f.fraction b) : a = b := by
  apply Nat.eq_of_testBit_eq
  intro i
  rcases Nat.lt_or_ge i f.fractionBits with hi | hi
  · -- a bit of the fraction, below those of the exponent and the sign
    have hbit := congrArg (Nat.testBit · i) hfraction
    simpa [fraction, Nat.one_shiftLeft, Nat.testBit_mod_two_pow, hi] using hbit
  · rcases Nat.lt_or_ge i (f.fractionBits + f.exponentBits) with hj | hj
    · have hbit := congrArg (Nat.testBit · (i - f.fractionBits)) hexponent
      simpa [biasedExponent, Nat.one_shiftLeft, Nat.testBit_mod_two_pow, Nat.testBit_shiftRight,
        show i - f.fractionBits < f.exponentBits by omega,
        show f.fractionBits + (i - f.fractionBits) = i by omega] using hbit
    · rcases Nat.eq_or_lt_of_le hj with rfl | hk
      · exact hsign
      · rw [Nat.testBit_lt_two_pow (Nat.lt_of_lt_of_le ha (Nat.pow_le_pow_right (by decide) hk)),
          Nat.testBit_lt_two_pow (Nat.lt_of_lt_of_le hb (Nat.pow_le_pow_right (by decide) hk))]

/-- The pattern of an infinity has the greatest exponent and no fraction. -/
theorem fields_of_datum_eq_infinite {f : FloatFormat} {bits : Nat} {negative : Bool}
    (h : f.datum bits = .infinite negative) :
    f.isNegative bits = negative ∧ f.biasedExponent bits + 1 = 2 ^ f.exponentBits ∧
      f.fraction bits = 0 := by
  unfold datum at h
  rw [Nat.one_shiftLeft] at h
  split_ifs at h with hgreatest hnone
  cases h
  exact ⟨rfl, hgreatest, hnone⟩

/-- The pattern of a finite number has the least exponent if the significand has no leading bit, and
otherwise that of the scale; the fraction is the significand without the leading bit. -/
theorem fields_of_datum_eq_finite {f : FloatFormat} {bits significand scale : Nat} {negative : Bool}
    (h : f.datum bits = .finite negative significand scale) :
    f.isNegative bits = negative ∧
      f.biasedExponent bits = (if significand < 2 ^ f.fractionBits then 0 else scale + 1) ∧
      f.fraction bits = significand % 2 ^ f.fractionBits := by
  have hlt := f.fraction_lt bits
  unfold datum at h
  split_ifs at h with hgreatest hnone hleast
  · cases h
    rw [if_pos hlt, Nat.mod_eq_of_lt hlt]
    exact ⟨rfl, hleast, rfl⟩
  · cases h
    -- the leading bit tells such a number from those with the least exponent
    rw [Nat.one_shiftLeft, if_neg (Nat.not_lt.mpr (Nat.le_add_right _ _)), Nat.add_mod_left,
      Nat.mod_eq_of_lt hlt]
    exact ⟨rfl, by omega, rfl⟩

/-- Patterns that stand for the same, and for a number, are the same. -/
theorem eq_of_datum_eq {f : FloatFormat} {a b : Nat}
    (ha : a < 2 ^ (f.fractionBits + f.exponentBits + 1))
    (hb : b < 2 ^ (f.fractionBits + f.exponentBits + 1))
    (hnumber : f.datum a ≠ .nan) (h : f.datum a = f.datum b) : a = b := by
  cases hdatum : f.datum a with
  | nan => exact absurd hdatum hnumber
  | infinite negative =>
    obtain ⟨hsign, hexponent, hfraction⟩ := fields_of_datum_eq_infinite hdatum
    obtain ⟨hsign', hexponent', hfraction'⟩ := fields_of_datum_eq_infinite (h.symm.trans hdatum)
    exact eq_of_fields_eq ha hb (hsign.trans hsign'.symm) (by omega)
      (hfraction.trans hfraction'.symm)
  | finite negative significand scale =>
    obtain ⟨hsign, hexponent, hfraction⟩ := fields_of_datum_eq_finite hdatum
    obtain ⟨hsign', hexponent', hfraction'⟩ := fields_of_datum_eq_finite (h.symm.trans hdatum)
    exact eq_of_fields_eq ha hb (hsign.trans hsign'.symm) (hexponent.trans hexponent'.symm)
      (hfraction.trans hfraction'.symm)

/-- Two patterns of a format are equal as numbers exactly if they are the same pattern of a number,
or those of the two zeros. -/
theorem equal_datum_iff {f : FloatFormat} {a b : Nat}
    (ha : a < 2 ^ (f.fractionBits + f.exponentBits + 1))
    (hb : b < 2 ^ (f.fractionBits + f.exponentBits + 1)) :
    (f.datum a).equal (f.datum b) = true ↔
      (a = b ∧ f.datum a ≠ .nan) ∨ (f.datum a).OppositeZeros (f.datum b) := by
  constructor
  · intro h
    have hnumber : f.datum a ≠ .nan := equal_self_iff.mp (equal_trans h (equal_symm h))
    rcases eq_or_oppositeZeros (f.holds_datum a) (f.holds_datum b) h with hsame | hzeros
    · exact .inl ⟨eq_of_datum_eq ha hb hnumber hsame, hnumber⟩
    · exact .inr hzeros
  · rintro (⟨rfl, hnumber⟩ | hzeros)
    · exact equal_self_iff.mpr hnumber
    · exact equal_of_oppositeZeros hzeros

/-- Patterns that are equal as numbers are the same unless they are those of the two zeros. -/
theorem eq_iff_of_equal_datum {f : FloatFormat} {a b : Nat}
    (ha : a < 2 ^ (f.fractionBits + f.exponentBits + 1))
    (hb : b < 2 ^ (f.fractionBits + f.exponentBits + 1))
    (h : (f.datum a).equal (f.datum b) = true) :
    a = b ↔ ¬ (f.datum a).OppositeZeros (f.datum b) := by
  constructor
  · rintro rfl
    exact not_oppositeZeros_self _
  · intro hzeros
    exact (((equal_datum_iff ha hb).mp h).resolve_right hzeros).1

end FloatFormat

/-! ## Patterns of 32 and of 64 bits -/

open FloatDatum

namespace Binary32

/-- The pattern of zero with a sign. -/
def zero (negative : Bool) : Binary32 := ⟨if negative then 0x80000000 else 0⟩

/-- A pattern of 32 bits is a sign, an exponent and a fraction of the format, and nothing more. -/
theorem bits_lt (x : Binary32) :
    x.bits.toNat <
      2 ^ (FloatFormat.binary32.fractionBits + FloatFormat.binary32.exponentBits + 1) :=
  x.bits.toNat_lt

/-- A number of 32 bits is nothing but its pattern. -/
theorem bits_inj {x y : Binary32} : x.bits = y.bits ↔ x = y := by
  obtain ⟨a⟩ := x
  obtain ⟨b⟩ := y
  rw [mk.injEq]

/-- Equal numbers are the same unless they are zeros of different signs. -/
theorem eq_iff_of_beq {x y : Binary32} (h : (x == y) = true) :
    x = y ↔ ¬ x.datum.OppositeZeros y.datum := by
  rw [← bits_inj, ← UInt32.toNat_inj]
  exact FloatFormat.eq_iff_of_equal_datum x.bits_lt y.bits_lt h

end Binary32

namespace Binary64

/-- The pattern of zero with a sign. -/
def zero (negative : Bool) : Binary64 := ⟨if negative then 0x8000000000000000 else 0⟩

/-- A pattern of 64 bits is a sign, an exponent and a fraction of the format, and nothing more. -/
theorem bits_lt (x : Binary64) :
    x.bits.toNat <
      2 ^ (FloatFormat.binary64.fractionBits + FloatFormat.binary64.exponentBits + 1) :=
  x.bits.toNat_lt

/-- A number of 64 bits is nothing but its pattern. -/
theorem bits_inj {x y : Binary64} : x.bits = y.bits ↔ x = y := by
  obtain ⟨a⟩ := x
  obtain ⟨b⟩ := y
  rw [mk.injEq]

/-- Equal numbers are the same unless they are zeros of different signs. -/
theorem eq_iff_of_beq {x y : Binary64} (h : (x == y) = true) :
    x = y ↔ ¬ x.datum.OppositeZeros y.datum := by
  rw [← bits_inj, ← UInt64.toNat_inj]
  exact FloatFormat.eq_iff_of_equal_datum x.bits_lt y.bits_lt h

/-- The patterns of the two zeros stand for them. -/
theorem datum_zero (negative : Bool) : (zero negative).datum = .zero negative := by
  cases negative <;> decide

/-- Each zero has one pattern. -/
theorem datum_eq_zero_iff {x : Binary64} {negative : Bool} :
    x.datum = .zero negative ↔ x = zero negative := by
  constructor
  · intro h
    apply bits_inj.mp
    apply UInt64.toNat_inj.mp
    refine FloatFormat.eq_of_datum_eq x.bits_lt (bits_lt _) ?_ (h.trans (datum_zero negative).symm)
    exact h.trans_ne FloatDatum.noConfusion
  · rintro rfl
    exact datum_zero negative

end Binary64

end KeyHash
