import KeyHash.Mix.Fixed
import KeyHash.Proofs.Mix.Inverse
import Mathlib.Data.List.Nodup

/-! # The mixer of two bytes

Two bytes are folded into one state, one after the other. What the second fold is given is the
exclusive or of the state after the first byte with a multiple of the second (`joint`), and two keys
collide exactly if they agree there. Each of the two parts determines its byte, but nothing in their
form keeps a difference in one from making up for a difference in the other, so that this is found
out by evaluation.

The multiple of the second byte has a low byte that determines it. Hence a first byte and the low
byte of the whole leave one choice for the second byte, and it is enough to compare, for each of 256
low bytes, the 256 words that the first bytes give (`wordAt`). Each such family of words leaves
different remainders modulo a number listed in `moduli`, which a set of bits can record. -/

namespace KeyHash.Mix

/-! ## Different values, checked with a set of bits -/

/-- Whether a function takes different values on the members of a list, none of them among the bits
of `seen`. It is written with the functions of `Nat` that are evaluated in one step. -/
def differs (f : Nat → Nat) : List Nat → Nat → Bool
  | [], _ => true
  | x :: xs, seen =>
    bif Nat.beq (Nat.mod (Nat.shiftRight seen (f x)) 2) 1 then false
    else differs f xs (Nat.lor seen (Nat.shiftLeft 1 (f x)))

/-- One value is checked against the bits, and recorded for the rest. -/
theorem differs_cons (f : Nat → Nat) (x : Nat) (xs : List Nat) (seen : Nat) :
    differs f (x :: xs) seen =
      (!seen.testBit (f x) && differs f xs (seen ||| 1 <<< f x)) := by
  have hbit : Nat.beq (Nat.mod (Nat.shiftRight seen (f x)) 2) 1 = seen.testBit (f x) := by
    rw [Nat.testBit_eq_decide_div_mod_eq, ← Nat.shiftRight_eq_div_pow, Bool.eq_iff_iff, Nat.beq_eq,
      decide_eq_true_eq]
    rfl
  rw [differs, hbit]
  cases seen.testBit (f x) <;> rfl

/-- The values found different are different, and new to the bits recorded before. -/
theorem nodup_of_differs {f : Nat → Nat} {xs : List Nat} {seen : Nat}
    (h : differs f xs seen = true) :
    (xs.map f).Nodup ∧ ∀ x ∈ xs, seen.testBit (f x) = false := by
  induction xs generalizing seen with
  | nil => simp
  | cons x xs ih =>
    rw [differs_cons, Bool.and_eq_true, Bool.not_eq_true'] at h
    obtain ⟨hnew, hrest⟩ := h
    obtain ⟨hnodup, hseen⟩ := ih hrest
    -- the bits recorded for the rest are those of before and that of `f x`
    have hsplit (y : Nat) (hy : y ∈ xs) : seen.testBit (f y) = false ∧ f x ≠ f y := by
      have hy' := hseen y hy
      simpa [Nat.testBit_or, Nat.one_shiftLeft, Nat.testBit_two_pow] using hy'
    refine ⟨?_, ?_⟩
    · rw [List.map_cons, List.nodup_cons]
      refine ⟨?_, hnodup⟩
      intro hmem
      obtain ⟨y, hy, hxy⟩ := List.mem_map.mp hmem
      exact (hsplit y hy).2 hxy.symm
    · intro y hy
      rcases List.mem_cons.mp hy with rfl | hy
      · exact hnew
      · exact (hsplit y hy).1

/-! ## The words that the first bytes give -/

/-- The exclusive or of the state after the first byte and the multiple of the second. -/
def joint (first second : UInt8) : UInt64 :=
  byteFold (prime5 + 2) first ^^^ (second.toUInt64 * prime5)

/-- The states after the first byte, as numbers. -/
def firstStates : List Nat :=
  (List.range 256).map fun b => (byteFold (prime5 + 2) (UInt8.ofNat b)).toNat

/-- The word with the given low byte that comes of the state `a` and some second byte. The second
byte is found with 13, which is the inverse of the multiplier modulo 256. -/
def wordAt (low a : Nat) : Nat :=
  Nat.xor a (Nat.mod (Nat.mul (Nat.mod (Nat.mul (Nat.xor low a) 13) 256) 2870177450012600261)
    18446744073709551616)

/-- For each low byte, a number modulo which the words with that low byte are different. -/
def moduli : List Nat := [
  5865, 5425, 4329, 4571, 6027, 5337, 4061, 4895, 6131, 4825, 4385, 4735, 5873, 5569, 5315, 7079,
  5651, 5993, 5329, 6121, 5441, 4911, 4403, 6263, 3361, 5727, 5373, 4667, 4673, 6681, 6101, 5445,
  5475, 4633, 4935, 2689, 6175, 5197, 5359, 4843, 4333, 4193, 6475, 4999, 6601, 5739, 6635, 5203,
  5533, 6507, 5781, 5775, 4797, 4203, 5271, 4905, 5325, 4913, 6289, 3871, 5451, 5571, 4581, 4861,
  5533, 4683, 4479, 6449, 5447, 5541, 6143, 5185, 3999, 4473, 5517, 4355, 5487, 4373, 4231, 4813,
  5865, 4985, 6381, 4793, 4927, 6527, 6105, 5247, 5829, 5817, 6303, 5085, 5175, 4575, 5181, 5431,
  4745, 5447, 4887, 5593, 4923, 4357, 4891, 3751, 3871, 5285, 4937, 5265, 4185, 4799, 4829, 5805,
  4985, 4465, 6299, 5685, 3909, 5851, 4147, 5627, 6015, 5681, 4153, 5351, 5251, 4677, 6483, 6149,
  6059, 4817, 6721, 5293, 6859, 5759, 6057, 6151, 5345, 5273, 5271, 5765, 5351, 5685, 4883, 4691,
  5871, 6685, 4755, 4019, 3981, 6071, 5273, 4743, 4791, 4253, 5127, 5083, 5721, 5953, 5715, 5115,
  4801, 5875, 4681, 5841, 6359, 5887, 3591, 5191, 4673, 5247, 5659, 5611, 4525, 6731, 5941, 5301,
  4999, 5229, 3489, 5875, 6279, 4521, 4293, 3769, 6285, 4517, 4447, 3733, 5941, 5567, 4017, 5487,
  5549, 5039, 3603, 5263, 4687, 6883, 6975, 4093, 4519, 4431, 4861, 6997, 3759, 5271, 5179, 6267,
  4449, 5945, 5641, 5511, 5293, 6385, 5839, 6001, 5877, 6257, 3601, 4987, 4017, 4017, 4715, 4269,
  5053, 5247, 5793, 4681, 5745, 4313, 3793, 4845, 5769, 5357, 4929, 4949, 5719, 5505, 5771, 5233,
  4969, 5489, 5229, 5315, 5969, 4019, 7189, 3603, 4949, 5923, 5041, 4963, 5779, 5531, 5487, 5289]

/-- The words with the same low byte are different. -/
theorem differs_moduli :
    (moduli.zipIdx.all fun m =>
      differs (fun a => Nat.mod (wordAt m.2 a) m.1) firstStates 0) = true := by
  decide +kernel

/-- There is a modulus for every low byte. -/
theorem length_moduli : moduli.length = 256 := by decide +kernel

/-- Whatever the first byte, the state after it is listed. -/
theorem mem_firstStates (b : UInt8) : (byteFold (prime5 + 2) b).toNat ∈ firstStates :=
  List.mem_map.mpr ⟨b.toNat, List.mem_range.mpr b.toNat_lt, by rw [UInt8.ofNat_toNat]⟩

/-- Two states after a first byte that give the same word are the same. -/
theorem eq_of_wordAt_eq {low a b : Nat} (hlow : low < 256) (ha : a ∈ firstStates)
    (hb : b ∈ firstStates) (h : wordAt low a = wordAt low b) : a = b := by
  have hlength : low < moduli.length := by rw [length_moduli]; exact hlow
  have hmem : (moduli[low], low) ∈ moduli.zipIdx := List.mk_mem_zipIdx_iff_getElem?.mpr (by simp)
  have hdiffers := List.all_eq_true.mp differs_moduli _ hmem
  -- already the remainders tell the states apart
  have hinj := List.inj_on_of_nodup_map (nodup_of_differs hdiffers).1
  exact hinj ha hb (congrArg (Nat.mod · moduli[low]) h)

/-- The second byte is found from the low byte of a joint word and the state after the first. -/
theorem second_of_joint (first second : UInt8) :
    ((joint first second).toUInt8.toNat ^^^ (byteFold (prime5 + 2) first).toNat) * 13 % 256 =
      second.toNat := by
  have hinverse : prime5.toUInt8 * 13 = 1 := by decide
  have hbyte : UInt8.ofNat
      (((joint first second).toUInt8.toNat ^^^ (byteFold (prime5 + 2) first).toNat) * 13) =
        second := by
    rw [UInt8.ofNat_mul, UInt8.ofNat_xor, UInt8.ofNat_toNat, UInt8.ofNat_uInt64ToNat, joint]
    generalize byteFold (prime5 + 2) first = a
    -- the state drops out, and 13 takes the multiplier away
    calc
      ((a ^^^ second.toUInt64 * prime5).toUInt8 ^^^ a.toUInt8) * 13
        = (second * prime5.toUInt8) * 13 := by simp
      _ = second := by rw [UInt8.mul_assoc, hinverse, UInt8.mul_one]
  rw [← UInt8.toNat_ofNat', hbyte]

/-- The joint word of two bytes is the word with its own low byte that the first of them gives. -/
theorem toNat_joint (first second : UInt8) :
    (joint first second).toNat =
      wordAt (joint first second).toUInt8.toNat (byteFold (prime5 + 2) first).toNat := by
  have hsecond := second_of_joint first second
  have hword : (joint first second).toNat = (byteFold (prime5 + 2) first).toNat ^^^
      second.toNat * 2870177450012600261 % 18446744073709551616 := by
    rw [joint, UInt64.toNat_xor, UInt64.toNat_mul, UInt8.toNat_toUInt64]
    rfl
  rw [← hsecond] at hword
  exact hword

/-- Two bytes can be told from their joint word. -/
theorem joint_injective {b c b' c' : UInt8} (h : joint b c = joint b' c') : b = b' ∧ c = c' := by
  -- the low byte is the same on both sides, so the states are compared by one modulus of the list
  have hword : wordAt (joint b c).toUInt8.toNat (byteFold (prime5 + 2) b).toNat =
      wordAt (joint b c).toUInt8.toNat (byteFold (prime5 + 2) b').toNat := by
    rw [← toNat_joint, h, ← toNat_joint]
  have hstate : byteFold (prime5 + 2) b = byteFold (prime5 + 2) b' :=
    UInt64.toNat_inj.mp
      (eq_of_wordAt_eq (UInt8.toNat_lt _) (mem_firstStates b) (mem_firstStates b') hword)
  have hmul : c.toUInt64 * prime5 = c'.toUInt64 * prime5 := by
    rw [joint, joint, hstate] at h
    exact (UInt64.xor_right_inj _).mp h
  exact ⟨byteFold_injective_byte _ hstate, mul_prime5_injective hmul⟩

/-! ## The mixer -/

/-- A key of two bytes is determined by its bytes. -/
theorem eq_of_bytes_eq {a b : UInt16} (hlow : a.toUInt8 = b.toUInt8)
    (hhigh : (a >>> 8).toUInt8 = (b >>> 8).toUInt8) : a = b := by
  have hlow' := congrArg UInt8.toNat hlow
  have hhigh' := congrArg UInt8.toNat hhigh
  have ha := a.toNat_lt
  have hb := b.toNat_lt
  simp only [UInt16.toNat_toUInt8, UInt16.toNat_shiftRight, UInt16.reduceToNat, Nat.reduceMod,
    Nat.shiftRight_eq_div_pow, Nat.reducePow] at hlow' hhigh'
  apply UInt16.toNat_inj.mp
  omega

/-- The mixer of two bytes tells all keys apart. -/
theorem word_injective : Function.Injective word := by
  intro a b h
  have hfold := avalanche_bijective.injective h
  have hjoint : joint a.toUInt8 (a >>> 8).toUInt8 = joint b.toUInt8 (b >>> 8).toUInt8 :=
    (byteFold_eq_iff.mp hfold).trans (byteFold_eq_iff.mp rfl).symm
  obtain ⟨hlow, hhigh⟩ := joint_injective hjoint
  exact eq_of_bytes_eq hlow hhigh

end KeyHash.Mix
