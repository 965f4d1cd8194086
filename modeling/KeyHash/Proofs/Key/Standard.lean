import KeyHash.Binding
import KeyHash.Proofs.Key.Pattern

/-! # The strategies of the standard types

Each standard type has one strategy, which is that of its shape, and offers its hash function under
this strategy and no other, although it decides on its offer in one of several ways. So it can be
bound, and its hash is that of its content: types of the same strategy hash the same content to the
same value. What hashes sequences of bytes may be any function here. -/

namespace KeyHash

/-! ## Types of fixed width -/

namespace FixedType

/-- The strategy of the type. -/
def strategy : FixedType → Strategy
  | .uint8 | .int8 => .byte
  | .uint16 | .int16 => .word
  | .uint32 | .int32 | .binary32 => .dword
  | .uint64 | .int64 | .unsignedWord | .signedWord | .binary64 | .complex32 => .qword
  | .uint128 | .int128 | .complex64 => .oword

/-- The strategy of a type of fixed width is that of its width. -/
theorem width_strategy (t : FixedType) : t.strategy.width = some t.width := by cases t <;> rfl

/-- The shape of a type of fixed width leads to its strategy. -/
theorem classify_shape (t : FixedType) : classify t.keyType.shape = .ok t.strategy := by
  cases t <;> rfl

/-- The type offers its hash function under its strategy only. -/
theorem offer_eq (t : FixedType) (s : Strategy) :
    t.keyType.offer s = if s = t.strategy then some t.hash else none := by
  cases t with
  | unsignedWord | signedWord => exact KeyType.offer_native _ _ s
  | _ => rfl

/-- The hash of a key is that of its content. -/
theorem hash_eq_hashContent (sequenceHash : List UInt8 → UInt64) (t : FixedType) (key : t.Key) :
    t.hash key = t.strategy.hashContent sequenceHash (t.content key) := by
  have hcontent := t.toNat_content key
  cases t with
  | uint8 | int8 | uint16 | int16 | uint32 | int32 | uint64 | int64 | uint128 | int128 =>
    simp [hash, strategy, Strategy.hashContent, hcontent, pattern]
  | unsignedWord | signedWord =>
    simp [hash, strategy, Strategy.hashContent, hcontent, pattern, Mix.native]
  | binary32 | binary64 =>
    simp [hash, strategy, Strategy.hashContent, hcontent, pattern, Binary32.hash, Binary64.hash]
  | complex32 | complex64 =>
    simp [hash, strategy, Strategy.hashContent, hcontent, pattern, Complex.hash32, Complex.hash64]

end FixedType

/-! ## All standard types -/

namespace StandardType

/-- The strategy of the type. -/
def strategy : StandardType → Strategy
  | .fixed type | .reference type => type.strategy
  | .pointer _ _ => .qword
  | .text _ | .bytes _ => .bytes

/-- The hash of a key, where `sequenceHash` hashes sequences of bytes. -/
def hashOver (sequenceHash : List UInt8 → UInt64) : (t : StandardType) → t.Key → UInt64
  | .fixed type | .reference type => type.hash
  | .pointer _ _ => Mix.native
  | .text _ => fun s => sequenceHash (utf8Bytes s)
  | .bytes _ => sequenceHash

/-- The hasher of the type. -/
def hasherOver (sequenceHash : List UInt8 → UInt64) (t : StandardType) : Hasher t.Key :=
  ⟨(t.keyTypeOver sequenceHash).shape, t.strategy, t.hashOver sequenceHash⟩

variable (sequenceHash : List UInt8 → UInt64)

/-- The shape of a standard type leads to its strategy. -/
theorem classify_shape (t : StandardType) :
    classify (t.keyTypeOver sequenceHash).shape = .ok t.strategy := by
  cases t with
  | fixed type | reference type => exact type.classify_shape
  | pointer _ _ | text _ | bytes _ => rfl

/-- The type offers its hash function under its strategy only. -/
theorem offer_eq (t : StandardType) (s : Strategy) :
    (t.keyTypeOver sequenceHash).offer s =
      if s = t.strategy then some (t.hashOver sequenceHash) else none := by
  cases t with
  | fixed type => exact type.offer_eq s
  | reference type =>
    -- the function is the type's own, but it is there exactly if the referent offers one
    rw [keyTypeOver, KeyType.offer_reference, type.offer_eq]
    by_cases h : s = type.strategy
    · rw [if_pos h]
      exact (if_pos h).symm
    · rw [if_neg h]
      exact (if_neg h).symm
  | pointer _ _ => exact KeyType.offer_native _ _ s
  | text _ | bytes _ => rfl

/-- The type can be bound. -/
theorem outcome_bind (t : StandardType) :
    (t.keyTypeOver sequenceHash).bind.outcome = .ok (t.hasherOver sequenceHash) := by
  rw [KeyType.outcome_bind, KeyType.hasher_eq_ok_iff]
  refine ⟨rfl, t.classify_shape sequenceHash, ?_⟩
  rw [offer_eq]
  exact if_pos rfl

/-! ## Contents -/

/-- Where the strategy has a width, every content has it for its length. -/
theorem length_content {t : StandardType} {w : Nat} (hw : t.strategy.width = some w) (key : t.Key) :
    (t.content key).length = w := by
  cases t with
  | fixed type | reference type =>
    have hwidth : some type.width = some w := type.width_strategy.symm.trans hw
    exact (type.length_content key).trans (Option.some.inj hwidth)
  | pointer _ _ => exact (LittleEndian.length_ofNat _ _).trans (Option.some.inj hw)
  | text _ | bytes _ => cases hw

/-- Keys of the same content are the same. -/
theorem content_injective (t : StandardType) : Function.Injective t.content := by
  cases t with
  | fixed type | reference type => exact type.content_injective
  | pointer _ _ => exact FixedType.content_injective .unsignedWord
  | text _ => exact fun a b h => utf8Bytes_inj.mp h
  | bytes _ => exact Function.injective_id

/-- Where the strategy has a width, every sequence of this length is the content of a key. -/
theorem exists_content_eq {t : StandardType} {bs : List UInt8}
    (hlength : t.strategy.width = some bs.length) : ∃ key, t.content key = bs := by
  cases t with
  | fixed type | reference type =>
    have hwidth : some type.width = some bs.length := type.width_strategy.symm.trans hlength
    exact type.exists_content_eq (Option.some.inj hwidth).symm
  | pointer _ _ =>
    exact FixedType.exists_content_eq .unsignedWord (Option.some.inj hlength).symm
  | text _ | bytes _ => cases hlength

/-- The hash of a key is that of its content. -/
theorem hashOver_eq_hashContent (t : StandardType) (key : t.Key) :
    t.hashOver sequenceHash key = t.strategy.hashContent sequenceHash (t.content key) := by
  cases t with
  | fixed type | reference type => exact type.hash_eq_hashContent sequenceHash key
  | pointer _ _ => exact FixedType.hash_eq_hashContent sequenceHash .unsignedWord key
  | text _ | bytes _ => rfl

end StandardType

/-! ## Binding -/

/-- Every standard type offers a function under the strategy of its shape and no other. The function
hashes the content of a key, which has the width of the strategy. So the type can be bound to it,
and keys of two types that share a strategy and a content have the same hash. -/
theorem standard_types_hash_contents (sequenceHash : List UInt8 → UInt64) :
    (∀ (t : StandardType) (s : Strategy),
      ((t.keyTypeOver sequenceHash).offer s).isSome ↔
        classify (t.keyTypeOver sequenceHash).shape = .ok s) ∧
    (∀ (t : StandardType) (s : Strategy) (f : t.Key → UInt64),
      (t.keyTypeOver sequenceHash).offer s = some f →
        ∀ key, f key = s.hashContent sequenceHash (t.content key) ∧
          ∀ w, s.width = some w → (t.content key).length = w) ∧
    (∀ t : StandardType, ∃ h : Hasher t.Key,
      (t.keyTypeOver sequenceHash).bind.outcome = .ok h ∧
        h.shape = (t.keyTypeOver sequenceHash).shape ∧
        classify (t.keyTypeOver sequenceHash).shape = .ok h.strategy ∧
        ∀ key, h.hash key = h.strategy.hashContent sequenceHash (t.content key)) ∧
    (∀ (t u : StandardType) (h : Hasher t.Key) (g : Hasher u.Key),
      (t.keyTypeOver sequenceHash).bind.outcome = .ok h →
        (u.keyTypeOver sequenceHash).bind.outcome = .ok g → h.strategy = g.strategy →
          ∀ a b, t.content a = u.content b → h.hash a = g.hash b) := by
  refine ⟨?_, ?_, ?_, ?_⟩
  · intro t s
    rw [t.offer_eq, t.classify_shape, Except.ok.injEq]
    by_cases h : s = t.strategy
    · simp [h]
    · simp [h, Ne.symm h]
  · intro t s f hoffer key
    rw [t.offer_eq, Option.ite_none_right_eq_some] at hoffer
    obtain ⟨rfl, hf⟩ := hoffer
    rw [← Option.some.inj hf]
    exact ⟨t.hashOver_eq_hashContent sequenceHash key, fun w hw => t.length_content hw key⟩
  · intro t
    exact ⟨t.hasherOver sequenceHash, t.outcome_bind sequenceHash, rfl,
      t.classify_shape sequenceHash, t.hashOver_eq_hashContent sequenceHash⟩
  · intro t u h g hh hg hstrategy a b hcontent
    rw [t.outcome_bind] at hh
    rw [u.outcome_bind] at hg
    cases hh
    cases hg
    calc
      t.hashOver sequenceHash a = t.strategy.hashContent sequenceHash (t.content a) :=
        t.hashOver_eq_hashContent sequenceHash a
      _ = u.strategy.hashContent sequenceHash (u.content b) := by
        rw [show t.strategy = u.strategy from hstrategy, hcontent]
      _ = u.hashOver sequenceHash b := (u.hashOver_eq_hashContent sequenceHash b).symm

/-- The complex number `2 + 1i` and the word of the same eight bytes have the same hash. -/
theorem hash_complex32_eq_hash_uint64 :
    ((StandardType.reference .complex32).hasherOver Xxh3.hash).hash ⟨⟨0x40000000⟩, ⟨0x3f800000⟩⟩ =
      ((StandardType.fixed .uint64).hasherOver Xxh3.hash).hash 0x3f80000040000000 :=
  (standard_types_hash_contents Xxh3.hash).2.2.2 (.reference .complex32) (.fixed .uint64) _ _
    (StandardType.outcome_bind _ _) (StandardType.outcome_bind _ _) rfl _ _ (by decide)

end KeyHash
