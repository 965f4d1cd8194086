import KeyHash.Proofs.Key.Equality
import KeyHash.Proofs.Key.Standard
import KeyHash.Proofs.Mix.Injective
import KeyHash.Proofs.Mix.SixteenBytes

/-! # Equal keys of different hashes

A hash sees the bits of a key and comparison the numbers, so that equal keys need not have the same
hash. They have it only if they are the same key (`hashOver_eq_iff_of_beq`): what equal keys can
differ in is the sign of a zero, and the mixers keep that apart, also where sixteen bytes are mixed
into one hash and two signs change at once. -/

namespace KeyHash

namespace Complex

/-- The lower half of the packed integer is the real component. -/
theorem low_packed64 (z : Complex Binary64) : z.packed64.low = z.re.bits :=
  UInt128.low_ofHalves _ _

/-- The upper half of the packed integer is the imaginary component. -/
theorem high_packed64 (z : Complex Binary64) : z.packed64.high = z.im.bits :=
  UInt128.high_ofHalves _ _

/-- Numbers that agree in exactly one component do not collide. -/
theorem hash64_ne_of_xor {a b : Complex Binary64} (h : Xor (a.re = b.re) (a.im = b.im)) :
    a.hash64 ≠ b.hash64 := by
  apply Mix.oword_ne_of_xor
  rwa [low_packed64, low_packed64, high_packed64, high_packed64, Binary64.bits_inj,
    Binary64.bits_inj]

/-- Zeros that differ in both signs do not collide. -/
theorem hash64_zero_ne (r i : Bool) :
    hash64 ⟨.zero r, .zero i⟩ ≠ hash64 ⟨.zero !r, .zero !i⟩ := by
  cases r <;> cases i <;> decide

/-- Equal numbers do not collide unless they are the same. -/
theorem eq_of_hash64_eq {a b : Complex Binary64} (h : (a == b) = true)
    (hhash : a.hash64 = b.hash64) : a = b := by
  obtain ⟨hre, him⟩ := beq_iff.mp h
  by_contra hne
  rw [ext_iff] at hne
  by_cases hre' : a.re = b.re
  · exact hash64_ne_of_xor (.inl ⟨hre', fun him' => hne ⟨hre', him'⟩⟩) hhash
  · by_cases him' : a.im = b.im
    · exact hash64_ne_of_xor (.inr ⟨him', hre'⟩) hhash
    · -- nothing is left but a change of both signs of zero
      obtain ⟨r, ha, hb⟩ := not_not.mp ((Binary64.eq_iff_of_beq hre).not.mp hre')
      obtain ⟨i, hc, hd⟩ := not_not.mp ((Binary64.eq_iff_of_beq him).not.mp him')
      rw [Binary64.datum_eq_zero_iff] at ha hb hc hd
      have ha' : a = ⟨.zero r, .zero i⟩ := ext_iff.mpr ⟨ha, hc⟩
      have hb' : b = ⟨.zero !r, .zero !i⟩ := ext_iff.mpr ⟨hb, hd⟩
      rw [ha', hb'] at hhash
      exact hash64_zero_ne r i hhash

end Complex

/-- Equal keys have the same hash only if they are the same. -/
theorem FixedType.eq_of_hash_eq {t : FixedType} {a b : t.Key} (h : (a == b) = true)
    (hhash : t.hash a = t.hash b) : a = b := by
  cases t with
  | binary32 => exact Binary32.bits_inj.mp (Mix.dword_injective hhash)
  | binary64 => exact Binary64.bits_inj.mp (Mix.qword_bijective.injective hhash)
  | complex32 =>
    have hpacked : a.packed32 = b.packed32 := Mix.qword_bijective.injective hhash
    rw [← a.unpacked32_packed32, hpacked, b.unpacked32_packed32]
  | complex64 => exact Complex.eq_of_hash64_eq h hhash
  | _ => exact eq_of_beq h

namespace StandardType

/-- Equal keys have the same hash exactly if they are the same. -/
theorem hashOver_eq_iff_of_beq (sequenceHash : List UInt8 → UInt64) {t : StandardType} {a b : t.Key}
    (h : (a == b) = true) :
    t.hashOver sequenceHash a = t.hashOver sequenceHash b ↔ a = b := by
  constructor
  · intro hhash
    cases t with
    | fixed type | reference type => exact FixedType.eq_of_hash_eq h hhash
    | pointer _ _ | text _ | bytes _ => exact eq_of_beq h
  · rintro rfl
    rfl

end StandardType

/-- Two equal keys of a standard type have the same hash exactly if no component is zero in both
with different signs, which can only be where keys are made of floating-point numbers. How sequences
of bytes are hashed does not matter. -/
theorem hash_eq_iff_of_beq (sequenceHash : List UInt8 → UInt64) (t : StandardType) :
    ∃ h : Hasher t.Key, (t.keyTypeOver sequenceHash).bind.outcome = .ok h ∧
      (∀ a b : t.Key, (a == b) = true →
        (h.hash a = h.hash b ↔
          ∀ p ∈ (t.components a).zip (t.components b), ¬ p.1.OppositeZeros p.2)) ∧
      (t.isFloating = false → ∀ a b : t.Key, (a == b) = true → h.hash a = h.hash b) := by
  refine ⟨t.hasherOver sequenceHash, t.outcome_bind sequenceHash, ?_, ?_⟩
  · intro a b hequal
    exact (StandardType.hashOver_eq_iff_of_beq sequenceHash hequal).trans
      (StandardType.eq_iff_of_beq hequal)
  · intro ht a b hequal
    have hlawful : LawfulBEq t.Key := StandardType.lawfulBEq ht
    exact congrArg (t.hashOver sequenceHash) (eq_of_beq hequal)

/-- Complex zeros that differ in both signs are equal and have different hashes. References to one
integer, read with a sign or without, have the same hash. -/
theorem hash_complex64_zeros_ne :
    (∃ h : Hasher (Complex Binary64), (StandardType.fixed .complex64).keyType.bind.outcome = .ok h ∧
      h.hash ⟨.zero false, .zero true⟩ ≠ h.hash ⟨.zero true, .zero false⟩) ∧
    (∃ h : Hasher Int128, (StandardType.reference .int128).keyType.bind.outcome = .ok h ∧
      h.hash (.ofInt (-1)) = h.hash (.ofInt (2 ^ 128 - 1))) := by
  constructor
  · obtain ⟨h, hbind, hiff, -⟩ := hash_eq_iff_of_beq Xxh3.hash (.fixed .complex64)
    refine ⟨h, hbind, fun hhash => ?_⟩
    have hnone := (hiff ⟨.zero false, .zero true⟩ ⟨.zero true, .zero false⟩ (by decide)).mp hhash
    exact hnone _ List.mem_cons_self ⟨false, Binary64.datum_zero false, Binary64.datum_zero true⟩
  · obtain ⟨h, hbind, -, hall⟩ := hash_eq_iff_of_beq Xxh3.hash (.reference .int128)
    exact ⟨h, hbind, hall rfl _ _ (by decide)⟩

/-- Not only the numbers themselves: references to the two zeros are equal as well and have
different hashes. -/
theorem exists_equal_references_of_different_hash :
    ¬ ∀ t : StandardType,
      t ∉ [.fixed .binary32, .fixed .binary64, .fixed .complex32, .fixed .complex64] →
        ∀ h : Hasher t.Key, t.keyType.bind.outcome = .ok h →
          ∀ a b : t.Key, (a == b) = true → h.hash a = h.hash b := by
  intro hall
  have hhash := hall (.reference .binary32) (by decide) _ (StandardType.outcome_bind Xxh3.hash _)
    (.zero false) (.zero true) (by decide)
  exact absurd hhash (by decide)

end KeyHash
