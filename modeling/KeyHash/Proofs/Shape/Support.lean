import KeyHash.Classification
import Mathlib.Logic.Function.Basic

/-! # Supported shapes

Which shapes have a strategy is a matter of their kind and width: each kind is supported at the
widths of its formats and at no other (`Shape.IsSupported`). Which strategy a supported shape has is
a matter of its width alone, whatever its kind, since no two strategies have the same width. So the
classification is said by one equivalence, `classify_eq_ok_iff`, and its failures by another,
`classify_eq_error_iff`. -/

namespace KeyHash

/-- A strategy is determined by its width. -/
theorem Strategy.width_injective : Function.Injective Strategy.width := by
  intro s s'
  cases s <;> cases s' <;> decide

/-- The shapes whose keys can be hashed: byte sequences, integers of a power of two up to sixteen
bytes, and floating-point and complex numbers at the widths of their formats. -/
def Shape.IsSupported : Shape → Prop
  | .bytes => True
  | .integer w => w = 1 ∨ w = 2 ∨ w = 4 ∨ w = 8 ∨ w = 16
  | .float w => w = 4 ∨ w = 8
  | .complex w => w = 8 ∨ w = 16
  | .uninterpreted _ => False

/-- Support can be decided kind by kind. -/
instance : DecidablePred Shape.IsSupported
  | .bytes => inferInstanceAs (Decidable True)
  | .integer w => inferInstanceAs (Decidable (w = 1 ∨ w = 2 ∨ w = 4 ∨ w = 8 ∨ w = 16))
  | .float w => inferInstanceAs (Decidable (w = 4 ∨ w = 8))
  | .complex w => inferInstanceAs (Decidable (w = 8 ∨ w = 16))
  | .uninterpreted _ => inferInstanceAs (Decidable False)

/-- A shape that has a strategy is supported. -/
theorem isSupported_of_classify {shape : Shape} {s : Strategy} (h : classify shape = .ok s) :
    shape.IsSupported := by
  unfold classify at h
  split at h <;> cases h <;> simp [Shape.IsSupported]

/-- A supported shape has a strategy. -/
theorem exists_classify_eq_ok {shape : Shape} (h : shape.IsSupported) :
    ∃ s, classify shape = .ok s := by
  cases shape with
  | bytes => exact ⟨_, rfl⟩
  | integer w => obtain rfl | rfl | rfl | rfl | rfl := h <;> exact ⟨_, rfl⟩
  | float w | complex w => obtain rfl | rfl := h <;> exact ⟨_, rfl⟩
  | uninterpreted w => exact h.elim

/-- The strategies of a shape: the one of its width, if the shape is supported. -/
theorem classify_eq_ok_iff {shape : Shape} {s : Strategy} :
    classify shape = .ok s ↔ shape.IsSupported ∧ s.width = shape.width := by
  constructor
  · intro h
    exact ⟨isSupported_of_classify h, width_of_classify h⟩
  · rintro ⟨hsupported, hwidth⟩
    obtain ⟨s', hs'⟩ := exists_classify_eq_ok hsupported
    have hsame : s = s' := Strategy.width_injective (hwidth.trans (width_of_classify hs').symm)
    rw [hsame, hs']

/-- A shape is refused exactly if it is not supported, with an error that carries it. -/
theorem classify_eq_error_iff {shape : Shape} {e : BindError} :
    classify shape = .error e ↔ ¬ shape.IsSupported ∧ e = .unsupportedShape shape := by
  constructor
  · intro h
    refine ⟨fun hsupported => ?_, error_of_classify h⟩
    obtain ⟨s, hs⟩ := exists_classify_eq_ok hsupported
    rw [hs] at h
    cases h
  · rintro ⟨hnot, rfl⟩
    cases hc : classify shape with
    | ok s => exact absurd (isSupported_of_classify hc) hnot
    | error e => rw [error_of_classify hc]

/-- Two supported shapes have the same strategy exactly if they have the same width. -/
theorem strategy_eq_iff_width_eq {a b : Shape} {s t : Strategy} (hs : classify a = .ok s)
    (ht : classify b = .ok t) : s = t ↔ a.width = b.width := by
  rw [← width_of_classify hs, ← width_of_classify ht]
  exact Strategy.width_injective.eq_iff.symm

/-- A shape has a strategy exactly if it is supported. Its strategy is then the one of its width, so
that shapes of one width share it whatever their kinds, and shapes of different widths do not. Every
other shape is refused with an error that carries it, and values that nothing is known of always
are. -/
theorem classify_isolates_widths :
    (∀ shape, (∃ s, classify shape = .ok s) ↔ shape.IsSupported) ∧
    (∀ shape s, classify shape = .ok s ↔ shape.IsSupported ∧ s.width = shape.width) ∧
    (∀ a b s t, classify a = .ok s → classify b = .ok t → (s = t ↔ a.width = b.width)) ∧
    (∀ shape e, classify shape = .error e ↔
      ¬ shape.IsSupported ∧ e = .unsupportedShape shape) ∧
    (∀ w s, classify (.uninterpreted w) ≠ .ok s) := by
  refine ⟨fun shape => ?_, fun shape s => classify_eq_ok_iff, fun a b s t hs ht =>
    strategy_eq_iff_width_eq hs ht, fun shape e => classify_eq_error_iff, fun w s h => ?_⟩
  · constructor
    · rintro ⟨s, hs⟩
      exact isSupported_of_classify hs
    · exact exists_classify_eq_ok
  · exact isSupported_of_classify h

/-- Complex numbers of eight bytes have the strategy of their width, which is not that of integers
of sixteen, and floating-point numbers of sixteen bytes have none. -/
theorem classify_complex_eight :
    classify (.complex 8) = .ok .qword ∧ classify (.integer 16) = .ok .oword ∧
    (Strategy.qword = .oword ↔ (Shape.complex 8).width = (Shape.integer 16).width) ∧
    classify (.float 16) = .error (.unsupportedShape (.float 16)) := by
  obtain ⟨-, htable, hshared, hrefused, -⟩ := classify_isolates_widths
  have hcomplex : classify (.complex 8) = .ok .qword := (htable _ _).mpr ⟨by decide, rfl⟩
  have hinteger : classify (.integer 16) = .ok .oword := (htable _ _).mpr ⟨by decide, rfl⟩
  exact ⟨hcomplex, hinteger, hshared _ _ _ _ hcomplex hinteger,
    (hrefused _ _).mpr ⟨by decide, rfl⟩⟩

end KeyHash
