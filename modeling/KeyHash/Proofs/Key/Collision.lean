import KeyHash.Proofs.Key.Standard
import KeyHash.Proofs.Mix.Injective
import KeyHash.Proofs.Mix.SixteenBytes
import KeyHash.Proofs.Mix.TwoBytes
import Mathlib.Data.Set.Function

/-! # Collisions of standard keys

Up to a width of eight bytes a hash determines the content that it was made of, and with it the key:
such keys never collide, and of eight bytes every value is the hash of exactly one key. Keys of
sixteen bytes collide as their mixer does. -/

namespace KeyHash

/-! ## Contents of at most eight bytes -/

namespace Strategy

/-- A mixer that tells all words apart tells apart the numbers that fit into a word. -/
theorem mix_ofNat_injOn {W : Type} {mix : W → UInt64} {ofNat : Nat → W} {toNat : W → Nat}
    {bound : Nat} (hmix : Function.Injective mix) (hback : ∀ n < bound, toNat (ofNat n) = n) :
    Set.InjOn (fun n => mix (ofNat n)) { n | n < bound } :=
  hmix.comp_injOn (Set.LeftInvOn.injOn hback)

variable (sequenceHash : List UInt8 → UInt64)

/-- Contents of the width of a strategy have different hashes, if that is at most eight bytes. -/
theorem hashContent_injOn {s : Strategy} {w : Nat} (hw : s.width = some w) (hle : w ≤ 8) :
    Set.InjOn (s.hashContent sequenceHash) { bs | bs.length = w } := by
  intro bs hbs cs hcs h
  have hb : LittleEndian.toNat bs < 256 ^ w := hbs ▸ LittleEndian.toNat_lt bs
  have hc : LittleEndian.toNat cs < 256 ^ w := hcs ▸ LittleEndian.toNat_lt cs
  apply LittleEndian.eq_of_toNat_eq (hbs.trans hcs.symm)
  cases s with
  | byte =>
    cases hw
    exact mix_ofNat_injOn Mix.byte_injective (fun _ => UInt8.toNat_ofNat_of_lt') hb hc h
  | word =>
    cases hw
    exact mix_ofNat_injOn Mix.word_injective (fun _ => UInt16.toNat_ofNat_of_lt') hb hc h
  | dword =>
    cases hw
    exact mix_ofNat_injOn Mix.dword_injective (fun _ => UInt32.toNat_ofNat_of_lt') hb hc h
  | qword =>
    cases hw
    exact mix_ofNat_injOn Mix.qword_bijective.injective (fun _ => UInt64.toNat_ofNat_of_lt') hb hc h
  | oword =>
    -- too wide: here contents do collide
    cases hw
    omega
  | bytes => cases hw

/-- Every value is the hash of some eight bytes. -/
theorem exists_hashContent_qword_eq (v : UInt64) :
    ∃ bs : List UInt8, bs.length = 8 ∧ qword.hashContent sequenceHash bs = v := by
  obtain ⟨x, hx⟩ := Mix.qword_bijective.surjective v
  refine ⟨LittleEndian.ofNat 8 x.toNat, LittleEndian.length_ofNat _ _, ?_⟩
  rw [hashContent, ← LittleEndian.word_eq_ofNat_toNat, LittleEndian.word_ofNat_toNat, hx]

end Strategy

/-! ## Keys of at most eight bytes -/

namespace StandardType

variable (sequenceHash : List UInt8 → UInt64)

/-- The strategy of a type has the width of its shape. -/
theorem width_strategy (t : StandardType) :
    t.strategy.width = (t.keyTypeOver sequenceHash).shape.width :=
  width_of_classify (t.classify_shape sequenceHash)

/-- Keys of at most eight bytes have the same hash only if they have the same content. -/
theorem content_eq_of_hashOver_eq {t : StandardType} {w : Nat} (hw : t.strategy.width = some w)
    (hle : w ≤ 8) {a b : t.Key} (h : t.hashOver sequenceHash a = t.hashOver sequenceHash b) :
    t.content a = t.content b := by
  rw [hashOver_eq_hashContent, hashOver_eq_hashContent] at h
  exact Strategy.hashContent_injOn sequenceHash hw hle (length_content hw a) (length_content hw b) h

/-- Every value is the hash of exactly one key of eight bytes. -/
theorem hashOver_bijective {t : StandardType} (ht : t.strategy = .qword) :
    Function.Bijective (t.hashOver sequenceHash) := by
  have hw : t.strategy.width = some 8 := by rw [ht]; rfl
  constructor
  · intro a b h
    exact t.content_injective (content_eq_of_hashOver_eq sequenceHash hw (Nat.le_refl 8) h)
  · intro v
    -- the value is the hash of some bytes, and these are the content of a key
    obtain ⟨bs, hlength, hhash⟩ := Strategy.exists_hashContent_qword_eq sequenceHash v
    have hwidth : t.strategy.width = some bs.length := by rw [hw, hlength]
    obtain ⟨key, hkey⟩ := exists_content_eq hwidth
    refine ⟨key, ?_⟩
    rw [hashOver_eq_hashContent, ht, hkey, hhash]

end StandardType

/-- Keys of at most eight bytes have the same hash exactly if they have the same content, that is if
they are the same, and on keys of eight bytes the hash takes every value. How sequences of bytes are
hashed does not matter. -/
theorem narrow_hash_eq_iff (sequenceHash : List UInt8 → UInt64) (t : StandardType) {w : Nat}
    (hw : (t.keyTypeOver sequenceHash).shape.width = some w) (hle : w ≤ 8) :
    ∃ h : Hasher t.Key, (t.keyTypeOver sequenceHash).bind.outcome = .ok h ∧
      (∀ a b, h.hash a = h.hash b ↔ t.content a = t.content b) ∧
      (∀ a b, t.content a = t.content b ↔ a = b) ∧
      (w = 8 → Function.Bijective h.hash ∧
        Set.BijOn t.content Set.univ { bs | bs.length = 8 }) := by
  have hwidth : t.strategy.width = some w := (t.width_strategy sequenceHash).trans hw
  refine ⟨t.hasherOver sequenceHash, t.outcome_bind sequenceHash, ?_, ?_, ?_⟩
  · intro a b
    constructor
    · intro h
      exact StandardType.content_eq_of_hashOver_eq sequenceHash hwidth hle h
    · intro h
      exact congrArg (t.hashOver sequenceHash) (t.content_injective h)
  · intro a b
    exact t.content_injective.eq_iff
  · rintro rfl
    -- only one strategy is eight bytes wide
    have ht : t.strategy = .qword := by
      revert hwidth
      cases t.strategy <;> simp [Strategy.width]
    refine ⟨StandardType.hashOver_bijective sequenceHash ht, ?_, t.content_injective.injOn, ?_⟩
    · intro key _
      exact StandardType.length_content hwidth key
    · intro bs hlength
      have hfits : t.strategy.width = some bs.length := hwidth.trans (congrArg some hlength.symm)
      obtain ⟨key, hkey⟩ := StandardType.exists_content_eq hfits
      exact ⟨key, Set.mem_univ key, hkey⟩

/-- Through a reference to two floating-point numbers of four bytes, every value is the hash of
exactly one key. -/
theorem hash_reference_complex32_bijective :
    ∃ h : Hasher (Complex Binary32),
      (StandardType.reference .complex32).keyType.bind.outcome = .ok h ∧
        (∀ a b, h.hash a = h.hash b ↔ a = b) ∧ Function.Bijective h.hash := by
  obtain ⟨h, hbind, hhash, hcontent, hall⟩ :=
    narrow_hash_eq_iff Xxh3.hash (.reference .complex32) rfl (Nat.le_refl 8)
  exact ⟨h, hbind, fun a b => (hhash a b).trans (hcontent a b), (hall rfl).1⟩

/-! ## Keys of sixteen bytes -/

/-- Which keys of sixteen bytes have the same hash. For a fixed half the hash is a bijection in the
other, so that keys that agree in exactly one half or component do not collide, and every value is
the hash of one key in `2 ^ 64`. -/
theorem wide_hash_eq_iff :
    (∀ a b : UInt128, Mix.oword a = Mix.oword b ↔
      Mix.round a.high ^^^ Mix.round b.high =
        Mix.qwordFold (Mix.prime5 + 16) a.low ^^^ Mix.qwordFold (Mix.prime5 + 16) b.low) ∧
    (∀ low, Function.Bijective fun high => Mix.oword (.ofHalves low high)) ∧
    (∀ high, Function.Bijective fun low => Mix.oword (.ofHalves low high)) ∧
    (∃ h : Hasher UInt128, (StandardType.fixed .uint128).keyType.bind.outcome = .ok h ∧
      ∀ a b, Xor (a.low = b.low) (a.high = b.high) → h.hash a ≠ h.hash b) ∧
    (∃ h : Hasher Int128, (StandardType.fixed .int128).keyType.bind.outcome = .ok h ∧
      ∀ a b, Xor (a.toUInt128.low = b.toUInt128.low) (a.toUInt128.high = b.toUInt128.high) →
        h.hash a ≠ h.hash b) ∧
    (∃ h : Hasher (Complex Binary64),
      (StandardType.fixed .complex64).keyType.bind.outcome = .ok h ∧
        ∀ a b, Xor (a.re = b.re) (a.im = b.im) → h.hash a ≠ h.hash b) ∧
    Nat.card UInt128 = 2 ^ 128 ∧
    (∀ v, Nat.card { key : UInt128 // Mix.oword key = v } = 2 ^ 64) := by
  refine ⟨Mix.oword_eq_iff, Mix.oword_bijective_high, Mix.oword_bijective_low, ?_, ?_, ?_,
    card_uint128, Mix.card_oword_eq⟩
  · exact ⟨_, StandardType.outcome_bind Xxh3.hash _, fun a b h => Mix.oword_ne_of_xor h⟩
  · exact ⟨_, StandardType.outcome_bind Xxh3.hash _, fun a b h => Mix.oword_ne_of_xor h⟩
  · refine ⟨_, StandardType.outcome_bind Xxh3.hash _, ?_⟩
    intro a b h
    -- the components are the halves of the packed numbers
    have hhalves : Xor (a.packed64.low = b.packed64.low) (a.packed64.high = b.packed64.high) := by
      rw [Complex.packed64, Complex.packed64, UInt128.low_ofHalves, UInt128.low_ofHalves,
        UInt128.high_ofHalves, UInt128.high_ofHalves]
      rwa [Binary64.mk.injEq, Binary64.mk.injEq] at h
    exact Mix.oword_ne_of_xor hhalves

end KeyHash
