import KeyHash.Proofs.Key.Collision
import KeyHash.Proofs.Shape.Support
import Mathlib.Data.Int.CardIntervalMod

/-! # How many keys a bucket can get

Of all keys that a type has, how many belong to a bucket? On eight bytes the hash takes every value
once, so that it is the number of words with one remainder (`card_mod_eq`); on sixteen bytes it
takes every value `2 ^ 64` times, and the number is that many times as large (`card_oword`). Either
way no bucket is left out, and the buckets share the keys as evenly as their number allows. -/

namespace KeyHash

/-! ## Remainders of words -/

/-- A word and the number that it stands for have the same remainders. -/
theorem toNat_bijective_of_mod {n b : Nat} (hb : b < n) :
    Function.Bijective fun v : { v : UInt64 // v.toNat % n = b } =>
      (⟨v.1.toNat, v.1.toNat_lt, v.2.trans (Nat.mod_eq_of_lt hb).symm⟩ :
        { k : Nat // k < 2 ^ 64 ∧ k ≡ b [MOD n] }) := by
  constructor
  · rintro ⟨v, _⟩ ⟨w, _⟩ h
    exact Subtype.ext (UInt64.toNat_inj.mp (congrArg Subtype.val h))
  · rintro ⟨k, hk, hmod⟩
    have hback : (UInt64.ofNat k).toNat = k := UInt64.toNat_ofNat_of_lt' hk
    have hrest : k % n = b := Eq.trans hmod (Nat.mod_eq_of_lt hb)
    exact ⟨⟨UInt64.ofNat k, by rw [hback, hrest]⟩, Subtype.ext hback⟩

/-- The words with one remainder are as many as the numbers below `2 ^ 64` with it. -/
theorem card_mod_eq {n b : Nat} (hn : 0 < n) (hb : b < n) :
    Nat.card { v : UInt64 // v.toNat % n = b } =
      2 ^ 64 / n + if b < 2 ^ 64 % n then 1 else 0 := by
  calc
    Nat.card { v : UInt64 // v.toNat % n = b }
      = Nat.card { k : Nat // k < 2 ^ 64 ∧ k ≡ b [MOD n] } :=
        Nat.card_eq_of_bijective _ (toNat_bijective_of_mod hb)
    _ = Nat.count (· ≡ b [MOD n]) (2 ^ 64) := by
        rw [Nat.count_eq_card_filter_range]
        exact Nat.subtype_card _ fun k => by rw [Finset.mem_filter, Finset.mem_range]
    _ = 2 ^ 64 / n + if b < 2 ^ 64 % n then 1 else 0 := by
        rw [Nat.count_modEq_card _ hn, Nat.mod_eq_of_lt hb]

/-- A function that takes every value once takes a set of values as often as that has members. -/
theorem card_of_bijective {α β : Type} {f : α → β} (hf : Function.Bijective f) (p : β → Prop) :
    Nat.card { a // p (f a) } = Nat.card { b // p b } :=
  Nat.card_congr ((Equiv.ofBijective f hf).subtypeEquiv fun _ => Iff.rfl)

/-- The mixer of sixteen bytes takes a set of values `2 ^ 64` times as often as that has members. -/
theorem card_oword (p : UInt64 → Prop) :
    Nat.card { key : UInt128 // p (Mix.oword key) } = Nat.card { v // p v } * 2 ^ 64 := by
  -- a key is its hash and its lower half, and the lower half can be anything
  have hpair : Function.Bijective fun key : UInt128 => (Mix.oword key, key.low) :=
    Prod.swap_bijective.comp Mix.low_oword_bijective
  rw [card_of_bijective hpair fun q => p q.1, Nat.card_congr Equiv.prodSubtypeFstEquivSubtypeProd,
    Nat.card_prod, card_uint64]

/-! ## Keys of sixteen bytes -/

namespace StandardType

/-- The content of a key as one integer of sixteen bytes. -/
def wideWord (t : StandardType) (key : t.Key) : UInt128 :=
  UInt128.ofNat (LittleEndian.toNat (t.content key))

/-- Keys of sixteen bytes are the integers of sixteen bytes. -/
theorem wideWord_bijective {t : StandardType} (ht : t.strategy = .oword) :
    Function.Bijective t.wideWord := by
  have hw : t.strategy.width = some 16 := by rw [ht]; rfl
  -- the content is short enough for the integer to stand for all of it
  have hwide (key : t.Key) : (t.wideWord key).toNat = LittleEndian.toNat (t.content key) := by
    have hlt := LittleEndian.toNat_lt (t.content key)
    rw [length_content hw key] at hlt
    exact (UInt128.toNat_ofNat _).trans (Nat.mod_eq_of_lt hlt)
  constructor
  · intro a b h
    apply t.content_injective
    apply LittleEndian.eq_of_toNat_eq ((length_content hw a).trans (length_content hw b).symm)
    rw [← hwide, h, hwide]
  · intro x
    have hfits : t.strategy.width = some (LittleEndian.ofNat 16 x.toNat).length := by
      rw [hw, LittleEndian.length_ofNat]
    obtain ⟨key, hkey⟩ := exists_content_eq hfits
    refine ⟨key, UInt128.toNat_inj.mp ?_⟩
    rw [hwide, hkey, LittleEndian.toNat_ofNat_pow]
    exact Nat.mod_eq_of_lt x.toNat_lt

/-- Keys of sixteen bytes are hashed as integers of two words, whatever hashes sequences. -/
theorem hashOver_eq_oword (sequenceHash : List UInt8 → UInt64) {t : StandardType}
    (ht : t.strategy = .oword) (key : t.Key) :
    t.hashOver sequenceHash key = Mix.oword (t.wideWord key) := by
  rw [hashOver_eq_hashContent, ht]
  rfl

end StandardType

/-! ## Buckets -/

/-- The number of keys, of all that there are, that belong to bucket `b` of `n`. -/
noncomputable def Hasher.load {Key : Type} (h : Hasher Key) (n b : Nat) : Nat :=
  Nat.card { key : Key // (h.hash key).toNat % n = b }

/-- A bucket that some key belongs to can be reached. -/
theorem Hasher.exists_of_load_pos {Key : Type} {h : Hasher Key} {n b : Nat}
    (hpos : 0 < h.load n b) : ∃ key, (h.hash key).toNat % n = b := by
  obtain ⟨key, hkey⟩ := (Nat.card_pos_iff.mp hpos).1
  exact ⟨key, hkey⟩

namespace StandardType

variable (sequenceHash : List UInt8 → UInt64) {t : StandardType} {n b : Nat}

/-- A bucket gets the words with its remainder. -/
theorem load_of_qword (ht : t.strategy = .qword) (hn : 0 < n) (hb : b < n) :
    (t.hasherOver sequenceHash).load n b = 2 ^ 64 / n + if b < 2 ^ 64 % n then 1 else 0 := by
  have hhash : Function.Bijective (t.hashOver sequenceHash) := hashOver_bijective sequenceHash ht
  exact (card_of_bijective hhash fun v => v.toNat % n = b).trans (card_mod_eq hn hb)

/-- A bucket gets `2 ^ 64` times as many integers of sixteen bytes. -/
theorem load_of_oword (ht : t.strategy = .oword) (hn : 0 < n) (hb : b < n) :
    (t.hasherOver sequenceHash).load n b =
      (2 ^ 64 / n + if b < 2 ^ 64 % n then 1 else 0) * 2 ^ 64 := by
  have hhash (key : t.Key) : (t.hasherOver sequenceHash).hash key = Mix.oword (t.wideWord key) :=
    hashOver_eq_oword sequenceHash ht key
  simp only [Hasher.load, hhash]
  rw [card_of_bijective (wideWord_bijective ht) fun x => (Mix.oword x).toNat % n = b,
    card_oword fun v => v.toNat % n = b, card_mod_eq hn hb]

end StandardType

/-- Of all keys of eight bytes each bucket gets the same number, up to one, and of all keys of
sixteen bytes the same number up to `2 ^ 64`. No bucket is left out. How sequences of bytes are
hashed does not matter. -/
theorem even_load (sequenceHash : List UInt8 → UInt64) (t : StandardType) {n : Nat} (hn : 0 < n)
    (hlt : n < 2 ^ 64) :
    ∃ h : Hasher t.Key, (t.keyTypeOver sequenceHash).bind.outcome = .ok h ∧
      ((t.keyTypeOver sequenceHash).shape.width = some 8 →
        Nat.card t.Key = 2 ^ 64 ∧
        ∀ b, b < n →
          h.load n b = 2 ^ 64 / n + (if b < 2 ^ 64 % n then 1 else 0) ∧
          (∃ key, (h.hash key).toNat % n = b) ∧
          ∀ c, c < n → h.load n b ≤ h.load n c + 1) ∧
      ((t.keyTypeOver sequenceHash).shape.width = some 16 →
        Nat.card t.Key = 2 ^ 128 ∧
        ∀ b, b < n →
          h.load n b = (2 ^ 64 / n + (if b < 2 ^ 64 % n then 1 else 0)) * 2 ^ 64 ∧
          (∃ key, (h.hash key).toNat % n = b) ∧
          ∀ c, c < n → h.load n b ≤ h.load n c + 2 ^ 64) := by
  have hshare : 0 < 2 ^ 64 / n := Nat.div_pos hlt.le hn
  have hwidth (w : Option Nat) (hw : (t.keyTypeOver sequenceHash).shape.width = w) :
      t.strategy.width = w :=
    (t.width_strategy sequenceHash).trans hw
  refine ⟨t.hasherOver sequenceHash, t.outcome_bind sequenceHash, ?_, ?_⟩
  · intro hw
    have ht : t.strategy = .qword := Strategy.width_injective (hwidth _ hw)
    have hcard := Nat.card_eq_of_bijective _ (t.hashOver_bijective sequenceHash ht)
    refine ⟨hcard.trans card_uint64, ?_⟩
    intro b hb
    have hload := StandardType.load_of_qword sequenceHash ht hn hb
    refine ⟨hload, Hasher.exists_of_load_pos (by omega), fun c hc => ?_⟩
    rw [hload, StandardType.load_of_qword sequenceHash ht hn hc]
    split_ifs <;> omega
  · intro hw
    have ht : t.strategy = .oword := Strategy.width_injective (hwidth _ hw)
    have hcard := Nat.card_eq_of_bijective _ (StandardType.wideWord_bijective ht)
    refine ⟨hcard.trans card_uint128, ?_⟩
    intro b hb
    have hload := StandardType.load_of_oword sequenceHash ht hn hb
    refine ⟨hload, Hasher.exists_of_load_pos (by omega), fun c hc => ?_⟩
    rw [hload, StandardType.load_of_oword sequenceHash ht hn hc]
    split_ifs <;> omega

/-- Ten buckets cannot get all the same number: the first six get one address more than the others,
and `2 ^ 64` complex numbers of sixteen bytes more. -/
theorem load_pointer_complex64 :
    (∃ h : Hasher UInt64, (StandardType.pointer true "String").keyType.bind.outcome = .ok h ∧
      h.load 10 5 = 1844674407370955162 ∧ h.load 10 6 = 1844674407370955161) ∧
    (∃ h : Hasher (Complex Binary64),
      (StandardType.fixed .complex64).keyType.bind.outcome = .ok h ∧
        h.load 10 5 = h.load 10 6 + 2 ^ 64) := by
  constructor
  · obtain ⟨h, hbind, hload, -⟩ :=
      even_load Xxh3.hash (.pointer true "String") (n := 10) (by decide) (by decide)
    exact ⟨h, hbind, ((hload rfl).2 5 (by decide)).1, ((hload rfl).2 6 (by decide)).1⟩
  · obtain ⟨h, hbind, -, hload⟩ :=
      even_load Xxh3.hash (.fixed .complex64) (n := 10) (by decide) (by decide)
    have hmore := ((hload rfl).2 5 (by decide)).1
    have hless := ((hload rfl).2 6 (by decide)).1
    refine ⟨h, hbind, ?_⟩
    rw [hmore, hless]
    decide

end KeyHash
