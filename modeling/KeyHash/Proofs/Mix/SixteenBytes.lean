import KeyHash.Mix.Fixed
import KeyHash.Proofs.Mix.Inverse
import KeyHash.Proofs.Word.Wide

/-! # The mixer of sixteen bytes

Sixteen bytes are twice as many as a hash has, so that keys must collide. Which ones do is said by
`oword_eq_iff`: those where the difference of the scrambled upper halves makes up for the difference
of the states after the lower ones. In particular the lower half and the hash determine the key
(`low_oword_bijective`), so each value is the hash of one key for each lower half. -/

namespace KeyHash.Mix

/-- Two exclusive ors are equal if the differences of their parts are. -/
theorem xor_eq_xor_iff (a b x y : UInt64) : a ^^^ x = b ^^^ y ↔ x ^^^ y = a ^^^ b := by
  constructor
  · intro h
    calc
      x ^^^ y = a ^^^ (a ^^^ x) ^^^ y := by rw [xor_cancel_left]
      _ = a ^^^ (b ^^^ y ^^^ y) := by rw [h, UInt64.xor_assoc]
      _ = a ^^^ b := by rw [xor_cancel_right]
  · intro h
    calc
      a ^^^ x = a ^^^ (x ^^^ y ^^^ y) := by rw [xor_cancel_right]
      _ = a ^^^ (a ^^^ b) ^^^ y := by rw [h, ← UInt64.xor_assoc]
      _ = b ^^^ y := by rw [xor_cancel_left]

/-- Two keys of sixteen bytes collide exactly if the difference of their scrambled upper halves is
the difference of the states after their lower halves. -/
theorem oword_eq_iff (a b : UInt128) :
    oword a = oword b ↔
      round a.high ^^^ round b.high =
        qwordFold (prime5 + 16) a.low ^^^ qwordFold (prime5 + 16) b.low := by
  have hfold : oword a = oword b ↔
      qwordFold (qwordFold (prime5 + 16) a.low) a.high =
        qwordFold (qwordFold (prime5 + 16) b.low) b.high :=
    avalanche_bijective.injective.eq_iff
  -- the second fold gives back the exclusive or of the state after the first with the upper lane
  rw [hfold, qwordFold_eq_iff, ← qwordFold_eq_iff.mp (rfl : _ = qwordFold _ b.high), xor_eq_xor_iff]

/-- A key given by its halves is hashed as two lanes. -/
theorem oword_ofHalves (low high : UInt64) :
    oword (.ofHalves low high) = avalanche (qwordFold (qwordFold (prime5 + 16) low) high) := by
  rw [oword, UInt128.low_ofHalves, UInt128.high_ofHalves]

/-- For a fixed lower half every value is the hash of exactly one key. -/
theorem oword_bijective_high (low : UInt64) :
    Function.Bijective fun high => oword (.ofHalves low high) := by
  simp only [oword_ofHalves]
  exact avalanche_bijective.comp (qwordFold_bijective_lane _)

/-- For a fixed upper half every value is the hash of exactly one key. -/
theorem oword_bijective_low (high : UInt64) :
    Function.Bijective fun low => oword (.ofHalves low high) := by
  simp only [oword_ofHalves]
  exact avalanche_bijective.comp
    ((qwordFold_bijective_state high).comp (qwordFold_bijective_lane (prime5 + 16)))

/-- Keys that differ in exactly one half do not collide. -/
theorem oword_ne_of_xor {a b : UInt128} (h : Xor (a.low = b.low) (a.high = b.high)) :
    oword a ≠ oword b := by
  intro hhash
  rw [← UInt128.ofHalves_low_high a, ← UInt128.ofHalves_low_high b] at hhash
  rcases h with ⟨hlow, hhigh⟩ | ⟨hhigh, hlow⟩
  · rw [hlow] at hhash
    exact hhigh ((oword_bijective_high _).injective hhash)
  · rw [hhigh] at hhash
    exact hlow ((oword_bijective_low _).injective hhash)

/-! ## Counting the keys of a hash -/

/-- The lower half and the hash of a key can be any two words, and determine the key. -/
theorem low_oword_bijective : Function.Bijective fun key : UInt128 => (key.low, oword key) := by
  constructor
  · intro a b h
    obtain ⟨hlow, hhash⟩ := Prod.mk.inj h
    by_contra hne
    have hhigh : a.high ≠ b.high := fun hhigh => hne (UInt128.ext_halves hlow hhigh)
    exact oword_ne_of_xor (.inl ⟨hlow, hhigh⟩) hhash
  · rintro ⟨low, v⟩
    obtain ⟨high, hhash⟩ := (oword_bijective_high low).surjective v
    exact ⟨.ofHalves low high, Prod.ext (UInt128.low_ofHalves low high) hhash⟩

/-- The keys of one hash are told apart by their lower halves, which can be any word. -/
theorem low_bijective_of_oword_eq (v : UInt64) :
    Function.Bijective fun key : { key : UInt128 // oword key = v } => key.1.low := by
  constructor
  · rintro ⟨a, ha⟩ ⟨b, hb⟩ hlow
    exact Subtype.ext (low_oword_bijective.injective (Prod.ext hlow (ha.trans hb.symm)))
  · intro low
    obtain ⟨key, hkey⟩ := low_oword_bijective.surjective (low, v)
    obtain ⟨hlow, hhash⟩ := Prod.mk.inj hkey
    exact ⟨⟨key, hhash⟩, hlow⟩

/-- Every value is the hash of as many keys of sixteen bytes as there are words. -/
theorem card_oword_eq (v : UInt64) : Nat.card { key : UInt128 // oword key = v } = 2 ^ 64 :=
  (Nat.card_eq_of_bijective _ (low_bijective_of_oword_eq v)).trans card_uint64

end KeyHash.Mix
