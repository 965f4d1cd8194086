import KeyHash.Proofs.Key.Standard
import KeyHash.Proofs.Mix.Inverse
import KeyHash.Proofs.Xxh3.Scramble
import Mathlib.Data.Set.Function

/-! # Short sequences of bytes never collide

Up to eight bytes the hash packs a sequence into one word and from there on only permutes words. The
word spells bytes of the sequence in an order of its own, some of them twice, and up to three bytes
their number as well, so that the sequence can be put together again. Sequences of at most three
bytes have different hashes, then, and so have sequences of the same length of four to eight. -/

namespace KeyHash

namespace Xxh3

/-! ## One, two or three bytes -/

/-- The bytes of the word: the last, the number of bytes, the first and the middle one. -/
def packedUpTo3 (bs : List UInt8) : List UInt8 :=
  [bs.getD (bs.length - 1) 0, UInt8.ofNat bs.length, bs.getD 0 0, bs.getD (bs.length / 2) 0]

/-- The sequence that a word was packed from, given the bytes of the word. -/
def unpackedUpTo3 : List UInt8 → List UInt8
  | [last, n, first, middle] =>
    if n = 1 then [first] else if n = 2 then [first, last] else [first, middle, last]
  | _ => []

/-- One, two or three bytes are found again among the packed bytes. -/
theorem unpackedUpTo3_packedUpTo3 {bs : List UInt8} (hpos : 0 < bs.length) (hle : bs.length ≤ 3) :
    unpackedUpTo3 (packedUpTo3 bs) = bs := by
  match bs, hpos, hle with
  | [_], _, _ => rfl
  | [_, _], _, _ => rfl
  | [_, _, _], _, _ => simp [packedUpTo3, unpackedUpTo3]

/-- The packed word is the one that the packed bytes make up. -/
theorem packUpTo3_eq_word {bs : List UInt8} (hle : bs.length ≤ 3) :
    packUpTo3 bs = LittleEndian.word (packedUpTo3 bs) := by
  have hlength : UInt64.ofNat bs.length = (UInt8.ofNat bs.length).toUInt64 := by
    apply UInt64.toNat_inj.mp
    rw [UInt64.toNat_ofNat', UInt8.toNat_toUInt64, UInt8.toNat_ofNat']
    omega
  rw [packUpTo3, packedUpTo3, LittleEndian.word_four, hlength, byteAt, byteAt, byteAt]
  -- the same four bytes are put together, in another order
  generalize (bs.getD 0 0).toUInt64 <<< 16 = first
  generalize (bs.getD (bs.length / 2) 0).toUInt64 <<< 24 = middle
  generalize (UInt8.ofNat bs.length).toUInt64 <<< 8 = n
  ac_rfl

/-- One, two or three bytes are told by the packed word, their number included. -/
theorem packUpTo3_injOn : Set.InjOn packUpTo3 { bs | 0 < bs.length ∧ bs.length ≤ 3 } := by
  rintro a ⟨hapos, hale⟩ b ⟨hbpos, hble⟩ h
  rw [packUpTo3_eq_word hale, packUpTo3_eq_word hble] at h
  have hbytes : packedUpTo3 a = packedUpTo3 b :=
    LittleEndian.eq_of_word_eq rfl (show 4 ≤ 8 by decide) h
  rw [← unpackedUpTo3_packedUpTo3 hapos hale, hbytes, unpackedUpTo3_packedUpTo3 hbpos hble]

/-- One, two or three bytes are told by their hash, as the packed word is only permuted. -/
theorem hashUpTo3_injOn : Set.InjOn hashUpTo3 { bs | 0 < bs.length ∧ bs.length ≤ 3 } := by
  intro a ha b hb h
  have hpack := Mix.avalanche_bijective.injective h
  exact packUpTo3_injOn ha hb ((UInt64.xor_left_inj _).mp hpack)

/-- The packed word leaves the upper half free. -/
theorem shiftRight_packUpTo3 {bs : List UInt8} (hle : bs.length ≤ 3) : packUpTo3 bs >>> 32 = 0 := by
  have hlt := LittleEndian.toNat_lt (packedUpTo3 bs)
  have hlength : (packedUpTo3 bs).length = 4 := rfl
  rw [packUpTo3_eq_word hle, LittleEndian.word_eq_ofNat_toNat]
  apply UInt64.toNat_inj.mp
  rw [UInt64.toNat_shiftRight, UInt64.toNat_ofNat', Nat.shiftRight_eq_div_pow]
  simp only [hlength, UInt64.reduceToNat, Nat.reduceMod, Nat.reducePow] at hlt ⊢
  omega

/-- The empty sequence has a hash of its own. -/
theorem hashUpTo3_ne_hashEmpty {bs : List UInt8} (hle : bs.length ≤ 3) :
    hashUpTo3 bs ≠ hashEmpty := by
  intro h
  have hpack := Mix.avalanche_bijective.injective h
  have hupper := congrArg (fun x : UInt64 => x >>> 32) hpack
  simp only [UInt64.shiftRight_xor, shiftRight_packUpTo3 hle] at hupper
  -- the secret for the empty sequence has bits in the upper half
  revert hupper
  decide

/-! ## Four to eight bytes -/

/-- The bytes of the word: the last four, then the first four. -/
def packedUpTo8 (bs : List UInt8) : List UInt8 := bs.drop (bs.length - 4) ++ bs.take 4

/-- The sequence of length `n` that a word was packed from, given the bytes of the word. -/
def unpackedUpTo8 (n : Nat) (bs : List UInt8) : List UInt8 :=
  bs.drop 4 ++ (bs.take 4).drop (8 - n)

/-- The last four bytes are four, where there are so many. -/
theorem length_lastFour {bs : List UInt8} (hge : 4 ≤ bs.length) :
    (bs.drop (bs.length - 4)).length = 4 := by
  rw [List.length_drop]
  omega

/-- Four to eight bytes are found again among the packed bytes, given their number. -/
theorem unpackedUpTo8_packedUpTo8 {bs : List UInt8} (hge : 4 ≤ bs.length) (hle : bs.length ≤ 8) :
    unpackedUpTo8 bs.length (packedUpTo8 bs) = bs := by
  have hlast := length_lastFour hge
  have hrest : bs.length - 4 + (8 - bs.length) = 4 := by omega
  rw [unpackedUpTo8, packedUpTo8, List.drop_left' hlast, List.take_left' hlast, List.drop_drop,
    hrest, List.take_append_drop]

/-- Four to eight bytes are packed into eight. -/
theorem length_packedUpTo8 {bs : List UInt8} (hge : 4 ≤ bs.length) :
    (packedUpTo8 bs).length = 8 := by
  rw [packedUpTo8, List.length_append, length_lastFour hge, List.length_take, Nat.min_eq_left hge]

/-- The packed word is the one that the packed bytes make up. -/
theorem packUpTo8_eq_word {bs : List UInt8} (hge : 4 ≤ bs.length) :
    packUpTo8 bs = LittleEndian.word (packedUpTo8 bs) := by
  have hlast := length_lastFour hge
  rw [packUpTo8, packedUpTo8, LittleEndian.word_append hlast, LittleEndian.dwordAt,
    LittleEndian.dwordAt, List.take_of_length_le (Nat.le_of_eq hlast), List.drop_zero]

/-- Sequences of one length from four to eight are told by the packed word. -/
theorem packUpTo8_injOn {n : Nat} (hge : 4 ≤ n) (hle : n ≤ 8) :
    Set.InjOn packUpTo8 { bs | bs.length = n } := by
  rintro a rfl b hlength h
  have hlength : b.length = a.length := hlength
  have hgeb : 4 ≤ b.length := hlength ▸ hge
  rw [packUpTo8_eq_word hge, packUpTo8_eq_word hgeb] at h
  have hbytes : packedUpTo8 a = packedUpTo8 b := by
    apply LittleEndian.eq_of_word_eq _ _ h
    · rw [length_packedUpTo8 hge, length_packedUpTo8 hgeb]
    · exact Nat.le_of_eq (length_packedUpTo8 hge)
  rw [← unpackedUpTo8_packedUpTo8 hge hle, hbytes, ← hlength,
    unpackedUpTo8_packedUpTo8 hgeb (hlength ▸ hle)]

/-- Sequences of one length from four to eight are told by their hash, which permutes the packed
words of that length. -/
theorem hashUpTo8_injOn {n : Nat} (hge : 4 ≤ n) (hle : n ≤ 8) :
    Set.InjOn hashUpTo8 { bs | bs.length = n } := by
  intro a ha b hb h
  have hn : (UInt64.ofNat n).toNat ≤ 8 := Nat.le_trans (Nat.mod_le _ _) hle
  rw [hashUpTo8, hashUpTo8, show a.length = n from ha, show b.length = n from hb] at h
  have hpack := scramblePair_injective hn h
  exact packUpTo8_injOn hge hle ha hb ((UInt64.xor_left_inj _).mp hpack)

/-! ## Up to eight bytes -/

/-- One, two or three bytes are hashed by way of the word that they are packed into. -/
theorem hash_of_length_pos {bs : List UInt8} (hpos : 0 < bs.length) (hle : bs.length ≤ 3) :
    hash bs = hashUpTo3 bs := by
  have hne : bs.length ≠ 0 := by omega
  simp only [hash, if_neg hne, if_pos hle]

/-- Four to eight bytes are hashed by way of the word that they are packed into. -/
theorem hash_of_length_ge_four {bs : List UInt8} (hge : 4 ≤ bs.length) (hle : bs.length ≤ 8) :
    hash bs = hashUpTo8 bs := by
  have hne : bs.length ≠ 0 := by omega
  have hgt : ¬ bs.length ≤ 3 := by omega
  simp only [hash, if_neg hne, if_neg hgt, if_pos hle]

/-- No sequence of one, two or three bytes has the hash of the empty one. -/
theorem hash_nil_ne {bs : List UInt8} (hpos : 0 < bs.length) (hle : bs.length ≤ 3) :
    hash [] ≠ hash bs := by
  rw [hash_of_length_pos hpos hle]
  exact (hashUpTo3_ne_hashEmpty hle).symm

/-- Sequences of at most three bytes have different hashes. -/
theorem hash_injOn_upTo3 : Set.InjOn hash { bs | bs.length ≤ 3 } := by
  intro a hale b hble h
  rcases Nat.eq_zero_or_pos a.length with ha | ha <;>
    rcases Nat.eq_zero_or_pos b.length with hb | hb
  · rw [List.length_eq_zero_iff.mp ha, List.length_eq_zero_iff.mp hb]
  · rw [List.length_eq_zero_iff.mp ha] at h
    exact absurd h (hash_nil_ne hb hble)
  · rw [List.length_eq_zero_iff.mp hb] at h
    exact absurd h.symm (hash_nil_ne ha hale)
  · rw [hash_of_length_pos ha hale, hash_of_length_pos hb hble] at h
    exact hashUpTo3_injOn ⟨ha, hale⟩ ⟨hb, hble⟩ h

/-- Sequences of one length from four to eight have different hashes. -/
theorem hash_injOn_length {n : Nat} (hge : 4 ≤ n) (hle : n ≤ 8) :
    Set.InjOn hash { bs | bs.length = n } := by
  rintro a rfl b hlength h
  have hlength : b.length = a.length := hlength
  rw [hash_of_length_ge_four hge hle,
    hash_of_length_ge_four (hlength ▸ hge) (hlength ▸ hle)] at h
  exact hashUpTo8_injOn hge hle rfl hlength h

/-- Two sequences of at most three bytes each, or of the same length of four to eight bytes. -/
def ShortPair (a b : List UInt8) : Prop :=
  (a.length ≤ 3 ∧ b.length ≤ 3) ∨ (a.length = b.length ∧ 4 ≤ a.length ∧ a.length ≤ 8)

/-- Whether two sequences make such a pair is seen from their lengths. -/
instance (a b : List UInt8) : Decidable (ShortPair a b) := inferInstanceAs (Decidable (_ ∨ _))

/-- Both sequences have at most eight bytes. -/
theorem ShortPair.length_le {a b : List UInt8} (h : ShortPair a b) :
    a.length ≤ 8 ∧ b.length ≤ 8 := by
  rcases h with h | h <;> omega

/-- Two such sequences have the same hash exactly if they are the same. -/
theorem ShortPair.hash_eq_iff {a b : List UInt8} (h : ShortPair a b) :
    hash a = hash b ↔ a = b := by
  rcases h with ⟨ha, hb⟩ | ⟨hlength, hge, hle⟩
  · exact hash_injOn_upTo3.eq_iff ha hb
  · exact (hash_injOn_length hge hle).eq_iff rfl hlength.symm

end Xxh3

/-! ## Keys -/

section

variable {sequenceHash : List UInt8 → UInt64}

/-- A function that agrees with the hash up to eight bytes tells short sequences apart as well. -/
theorem Xxh3.ShortPair.sequenceHash_eq_iff
    (hagrees : ∀ bs, bs.length ≤ 8 → sequenceHash bs = Xxh3.hash bs) {a b : List UInt8}
    (h : ShortPair a b) : sequenceHash a = sequenceHash b ↔ a = b := by
  rw [hagrees a h.length_le.1, hagrees b h.length_le.2]
  exact h.hash_eq_iff

/-- The hash tells keys apart whose contents are short sequences of bytes. -/
theorem StandardType.hashOver_eq_iff_of_shortPair
    (hagrees : ∀ bs, bs.length ≤ 8 → sequenceHash bs = Xxh3.hash bs) {t : StandardType}
    (ht : t.strategy = .bytes) {a b : t.Key} (h : Xxh3.ShortPair (t.content a) (t.content b)) :
    t.hashOver sequenceHash a = t.hashOver sequenceHash b ↔ a = b := by
  rw [hashOver_eq_hashContent, hashOver_eq_hashContent, ht]
  exact (h.sequenceHash_eq_iff hagrees).trans t.content_injective.eq_iff

/-- Let sequences of at most eight bytes be hashed by XXH3. Then two of at most three bytes each, or
of the same length of four to eight, have the same hash only if they are the same. So have texts and
sequences of bytes as keys, however they are held; a text is as long as its bytes. -/
theorem short_hash_eq_iff
    (hagrees : ∀ bs, bs.length ≤ 8 → sequenceHash bs = Xxh3.hash bs) :
    (∀ a b, Xxh3.ShortPair a b → (sequenceHash a = sequenceHash b ↔ a = b)) ∧
    (∀ holding, ∃ h : Hasher String,
      ((StandardType.text holding).keyTypeOver sequenceHash).bind.outcome = .ok h ∧
        ∀ a b, Xxh3.ShortPair (utf8Bytes a) (utf8Bytes b) → (h.hash a = h.hash b ↔ a = b)) ∧
    (∀ holding, ∃ h : Hasher (List UInt8),
      ((StandardType.bytes holding).keyTypeOver sequenceHash).bind.outcome = .ok h ∧
        ∀ a b, Xxh3.ShortPair a b → (h.hash a = h.hash b ↔ a = b)) := by
  refine ⟨fun a b h => h.sequenceHash_eq_iff hagrees, ?_, ?_⟩
  · intro holding
    let t := StandardType.text holding
    refine ⟨t.hasherOver sequenceHash, t.outcome_bind sequenceHash, fun a b h => ?_⟩
    exact StandardType.hashOver_eq_iff_of_shortPair hagrees (t := t) rfl h
  · intro holding
    let t := StandardType.bytes holding
    refine ⟨t.hasherOver sequenceHash, t.outcome_bind sequenceHash, fun a b h => ?_⟩
    exact StandardType.hashOver_eq_iff_of_shortPair hagrees (t := t) rfl h

end

/-- Sequences of none to three zero bytes have different hashes, and so have texts and sequences
that differ in one byte or in the order of their bytes. -/
theorem short_hash_ne :
    (Xxh3.hash [] ≠ Xxh3.hash [0] ∧ Xxh3.hash [0] ≠ Xxh3.hash [0, 0] ∧
      Xxh3.hash [0, 0] ≠ Xxh3.hash [0, 0, 0]) ∧
    (∃ h : Hasher String, (StandardType.text .reference).keyType.bind.outcome = .ok h ∧
      h.hash "ab" ≠ h.hash "ba" ∧ h.hash "hello" ≠ h.hash "hellp") ∧
    (∃ h : Hasher (List UInt8), (StandardType.bytes .boxed).keyType.bind.outcome = .ok h ∧
      h.hash [1, 2, 3, 4, 5, 6, 7, 8] ≠ h.hash [1, 2, 3, 4, 0, 6, 7, 8]) := by
  obtain ⟨hsequence, htext, hbytes⟩ := short_hash_eq_iff fun bs _ => rfl
  refine ⟨⟨?_, ?_, ?_⟩, ?_, ?_⟩
  · exact mt (hsequence _ _ (by decide)).mp (by decide)
  · exact mt (hsequence _ _ (by decide)).mp (by decide)
  · exact mt (hsequence _ _ (by decide)).mp (by decide)
  · obtain ⟨h, hbind, hhash⟩ := htext .reference
    refine ⟨h, hbind, ?_, ?_⟩
    · exact mt (hhash _ _ (by decide)).mp (by decide)
    · exact mt (hhash _ _ (by decide)).mp (by decide)
  · obtain ⟨h, hbind, hhash⟩ := hbytes .boxed
    exact ⟨h, hbind, mt (hhash _ _ (by decide)).mp (by decide)⟩

end KeyHash
