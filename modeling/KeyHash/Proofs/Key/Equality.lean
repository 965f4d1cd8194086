import KeyHash.Key.Standard
import KeyHash.Proofs.Float.Equality

/-! # When keys are equal

Keys come with a comparison of their own, which is that of the numbers where a key is made of
floating-point numbers. It is symmetric and transitive for every type. A key is equal to itself
unless a component is not a number (`beq_self_iff`), and equal keys are the same unless they have
zeros of different signs in some component (`eq_iff_of_beq`). -/

namespace KeyHash

/-- Comparison of floating-point numbers is symmetric and transitive, but not reflexive. -/
instance : PartialEquivBEq Binary32 where
  symm := FloatDatum.equal_symm
  trans := FloatDatum.equal_trans

/-- Comparison is symmetric and transitive in the wider format as well. -/
instance : PartialEquivBEq Binary64 where
  symm := FloatDatum.equal_symm
  trans := FloatDatum.equal_trans

namespace Complex

variable {α : Type} [BEq α]

omit [BEq α] in
/-- Complex numbers are the same exactly if their components are. -/
theorem ext_iff {a b : Complex α} : a = b ↔ a.re = b.re ∧ a.im = b.im := by
  obtain ⟨x, y⟩ := a
  obtain ⟨z, w⟩ := b
  rw [mk.injEq]

/-- Complex numbers are equal exactly if their components are. -/
theorem beq_iff {a b : Complex α} :
    (a == b) = true ↔ (a.re == b.re) = true ∧ (a.im == b.im) = true := by
  rw [beq_def, Bool.and_eq_true]

/-- Comparison by components is symmetric and transitive if that of the components is. -/
instance [PartialEquivBEq α] : PartialEquivBEq (Complex α) where
  symm h := by
    rw [beq_iff] at h ⊢
    exact ⟨BEq.symm h.1, BEq.symm h.2⟩
  trans hab hbc := by
    rw [beq_iff] at hab hbc ⊢
    exact ⟨BEq.trans hab.1 hbc.1, BEq.trans hab.2 hbc.2⟩

end Complex

namespace FixedType

/-- Whether keys of the type are made of floating-point numbers. -/
def isFloating : FixedType → Bool
  | .binary32 | .binary64 | .complex32 | .complex64 => true
  | _ => false

/-- The floating-point numbers that a key is made of. -/
def components : (t : FixedType) → t.Key → List FloatDatum
  | .binary32, key => [key.datum]
  | .binary64, key => [key.datum]
  | .complex32, key => [key.re.datum, key.im.datum]
  | .complex64, key => [key.re.datum, key.im.datum]
  | _, _ => []

/-- Keys of the other types are equal only if they are the same. -/
theorem lawfulBEq {t : FixedType} (ht : t.isFloating = false) : LawfulBEq t.Key := by
  cases t with
  | binary32 | binary64 | complex32 | complex64 => cases ht
  | _ => infer_instance

/-- Keys of every type of fixed width are compared symmetrically and transitively. -/
instance instPartialEquivBEqKey (t : FixedType) : PartialEquivBEq t.Key := by
  cases t <;> infer_instance

/-- A key is equal to itself unless one of its components is not a number. -/
theorem beq_self_iff {t : FixedType} {a : t.Key} :
    (a == a) = true ↔ FloatDatum.nan ∉ t.components a := by
  cases t with
  | binary32 | binary64 =>
    rw [components, List.mem_singleton, ← ne_eq, ne_comm]
    exact FloatDatum.equal_self_iff
  | complex32 | complex64 =>
    rw [components, List.mem_cons, List.mem_singleton, not_or, ← ne_eq, ← ne_eq, ne_comm,
      ne_comm (b := a.im.datum)]
    exact Complex.beq_iff.trans (and_congr FloatDatum.equal_self_iff FloatDatum.equal_self_iff)
  | _ => simp [components]

/-- Equal keys are the same unless some component is zero in both, with different signs. -/
theorem eq_iff_of_beq {t : FixedType} {a b : t.Key} (h : (a == b) = true) :
    a = b ↔ ∀ p ∈ (t.components a).zip (t.components b), ¬ p.1.OppositeZeros p.2 := by
  cases t with
  | binary32 => simpa [components] using Binary32.eq_iff_of_beq h
  | binary64 => simpa [components] using Binary64.eq_iff_of_beq h
  | complex32 =>
    obtain ⟨hre, him⟩ := Complex.beq_iff.mp h
    simpa [components] using Complex.ext_iff.trans
      (and_congr (Binary32.eq_iff_of_beq hre) (Binary32.eq_iff_of_beq him))
  | complex64 =>
    obtain ⟨hre, him⟩ := Complex.beq_iff.mp h
    simpa [components] using Complex.ext_iff.trans
      (and_congr (Binary64.eq_iff_of_beq hre) (Binary64.eq_iff_of_beq him))
  | _ => simpa [components] using h

end FixedType

/-! ## All standard types -/

namespace StandardType

/-- Whether keys of the type are made of floating-point numbers, or refer to such. -/
def isFloating : StandardType → Bool
  | .fixed type | .reference type => type.isFloating
  | .pointer _ _ | .text _ | .bytes _ => false

/-- The floating-point numbers that a key is made of, through the reference where it is one. -/
def components : (t : StandardType) → t.Key → List FloatDatum
  | .fixed type, key | .reference type, key => type.components key
  | .pointer _ _, _ | .text _, _ | .bytes _, _ => []

/-- Keys of the other types are equal only if they are the same. -/
theorem lawfulBEq {t : StandardType} (ht : t.isFloating = false) : LawfulBEq t.Key := by
  cases t with
  | fixed type | reference type => exact FixedType.lawfulBEq ht
  | pointer _ _ | text _ | bytes _ => infer_instance

/-- Keys of every standard type are compared symmetrically and transitively. -/
instance instPartialEquivBEqKey (t : StandardType) : PartialEquivBEq t.Key := by
  cases t with
  | fixed type | reference type => exact FixedType.instPartialEquivBEqKey type
  | pointer _ _ | text _ | bytes _ => infer_instance

/-- A key is equal to itself unless one of its components is not a number. -/
theorem beq_self_iff {t : StandardType} {a : t.Key} :
    (a == a) = true ↔ FloatDatum.nan ∉ t.components a := by
  cases t with
  | fixed type | reference type => exact FixedType.beq_self_iff
  | pointer _ _ | text _ | bytes _ => simp [components]

/-- Equal keys are the same unless some component is zero in both, with different signs. -/
theorem eq_iff_of_beq {t : StandardType} {a b : t.Key} (h : (a == b) = true) :
    a = b ↔ ∀ p ∈ (t.components a).zip (t.components b), ¬ p.1.OppositeZeros p.2 := by
  cases t with
  | fixed type | reference type => exact FixedType.eq_iff_of_beq h
  | pointer _ _ | text _ | bytes _ => simpa [components] using h

/-- Nothing is equal to a key with a component that is not a number. -/
theorem beq_eq_false_of_nan_mem {t : StandardType} {a b : t.Key}
    (hb : FloatDatum.nan ∈ t.components b) : (a == b) = false := by
  rw [Bool.eq_false_iff]
  intro h
  have hself : (b == b) = true := BEq.trans (BEq.symm h) h
  exact beq_self_iff.mp hself hb

/-- Only the key itself is equal to a key whose components are numbers other than zero. -/
theorem beq_iff_eq_of_components {t : StandardType} {a b : t.Key}
    (hb : t.isFloating = true →
      ∀ d ∈ t.components b, d ≠ .nan ∧ ∀ negative, d ≠ .zero negative) :
    (a == b) = true ↔ a = b := by
  cases ht : t.isFloating with
  | false =>
    have hlawful : LawfulBEq t.Key := lawfulBEq ht
    exact beq_iff_eq
  | true =>
    have hnumber := hb ht
    constructor
    · intro h
      rw [eq_iff_of_beq h]
      -- zeros of different signs would be zeros among the components of `b`
      rintro ⟨c, d⟩ hmem ⟨negative, -, hzero⟩
      exact (hnumber d (List.of_mem_zip hmem).2).2 _ hzero
    · rintro rfl
      exact beq_self_iff.mpr fun hnan => (hnumber _ hnan).1 rfl

end StandardType

end KeyHash
