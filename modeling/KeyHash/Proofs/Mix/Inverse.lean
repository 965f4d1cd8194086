import KeyHash.Mix.Round
import KeyHash.Proofs.Word.Permutation
import Mathlib.Data.LawfulXor.Basic
import Mathlib.Logic.Function.Basic

/-! # Undoing the mixing state

Every step of the mixing state can be undone. The multipliers are odd, so each has an inverse modulo
`2 ^ 64`, given here as a constant; from these and the inverses of rotations and shifted exclusive
ors the finishing step, the scrambling of a lane and both absorption steps get inverses by formula.

An absorption step takes a state and a piece of input. What its result determines is the exclusive
or of the state with the scrambled input (`qwordFold_eq_iff`, `byteFold_eq_iff`), so it is a
bijection in the state for a fixed input, and injective in the input for a fixed state. The inverses
of all steps stand together in `steps_undone`. -/

namespace KeyHash.Mix

/-! ## Inverses of the multipliers -/

/-- The inverse of the first multiplier. -/
def prime1Inverse : UInt64 := 614540362697595703

/-- The inverse of the second multiplier. -/
def prime2Inverse : UInt64 := 839798700976720815

/-- The inverse of the third multiplier. -/
def prime3Inverse : UInt64 := 16855272203555305545

/-- The inverse of the multiplier of single bytes. -/
def prime5Inverse : UInt64 := 14236653164957433613

/-- The first multiplier and its inverse make one, modulo `2 ^ 64`. -/
theorem prime1_mul_inverse : prime1 * prime1Inverse = 1 := by decide

/-- The second multiplier and its inverse make one. -/
theorem prime2_mul_inverse : prime2 * prime2Inverse = 1 := by decide

/-- The third multiplier and its inverse make one. -/
theorem prime3_mul_inverse : prime3 * prime3Inverse = 1 := by decide

/-- The multiplier of single bytes and its inverse make one. -/
theorem prime5_mul_inverse : prime5 * prime5Inverse = 1 := by decide

/-! ## The finishing step -/

/-- The state that was finished into `y`. -/
def undoAvalanche (y : UInt64) : UInt64 :=
  let h := undoXorShift y 32 * prime3Inverse
  let h := undoXorShift h 29 * prime2Inverse
  undoXorShift h 33

/-- A finished state tells the state that was finished. -/
theorem undoAvalanche_avalanche (h : UInt64) : undoAvalanche (avalanche h) = h := by
  simp only [undoAvalanche, avalanche]
  -- what was done last is undone first
  rw [undoXorShift_xorShift _ 32 (by decide) (by decide),
    mul_mul_of_mul_eq_one _ prime3_mul_inverse,
    undoXorShift_xorShift _ 29 (by decide) (by decide),
    mul_mul_of_mul_eq_one _ prime2_mul_inverse,
    undoXorShift_xorShift _ 33 (by decide) (by decide)]

/-- Every state is the finished one of some state. -/
theorem avalanche_undoAvalanche (y : UInt64) : avalanche (undoAvalanche y) = y := by
  simp only [undoAvalanche, avalanche]
  rw [xorShift_undoXorShift _ 33 (by decide) (by decide),
    mul_mul_of_mul_eq_one_left _ prime2_mul_inverse,
    xorShift_undoXorShift _ 29 (by decide) (by decide),
    mul_mul_of_mul_eq_one_left _ prime3_mul_inverse,
    xorShift_undoXorShift _ 32 (by decide) (by decide)]

/-- The finishing step permutes the states. -/
theorem avalanche_bijective : Function.Bijective avalanche :=
  Function.bijective_iff_has_inverse.mpr
    ⟨undoAvalanche, undoAvalanche_avalanche, avalanche_undoAvalanche⟩

/-! ## The scrambling of a lane -/

/-- The lane that was scrambled into `y`. -/
def undoRound (y : UInt64) : UInt64 := rotateLeft (y * prime1Inverse) 33 * prime2Inverse

/-- A scrambled lane tells the lane that was scrambled. -/
theorem undoRound_round (lane : UInt64) : undoRound (round lane) = lane := by
  simp only [undoRound, round]
  rw [mul_mul_of_mul_eq_one _ prime1_mul_inverse, rotateLeft_rotateLeft _ 31 33 (by decide),
    mul_mul_of_mul_eq_one _ prime2_mul_inverse]

/-- Every word is the scrambled one of some lane. -/
theorem round_undoRound (y : UInt64) : round (undoRound y) = y := by
  simp only [undoRound, round]
  rw [mul_mul_of_mul_eq_one_left _ prime2_mul_inverse, rotateLeft_rotateLeft _ 33 31 (by decide),
    mul_mul_of_mul_eq_one_left _ prime1_mul_inverse]

/-- Scrambling permutes the lanes. -/
theorem round_bijective : Function.Bijective round :=
  Function.bijective_iff_has_inverse.mpr ⟨undoRound, undoRound_round, round_undoRound⟩

/-! ## The absorption of a lane -/

/-- The exclusive or of state and scrambled lane that was turned into the state `y`. -/
def undoQword (y : UInt64) : UInt64 := rotateLeft ((y - prime4) * prime1Inverse) 37

/-- A state after a lane says no more and no less than the exclusive or that went into it. -/
theorem qwordFold_eq_iff {h lane y : UInt64} :
    qwordFold h lane = y ↔ h ^^^ round lane = undoQword y := by
  constructor
  · rintro rfl
    rw [undoQword, qwordFold, UInt64.add_sub_cancel, mul_mul_of_mul_eq_one _ prime1_mul_inverse,
      rotateLeft_rotateLeft _ 27 37 (by decide)]
  · intro hy
    rw [qwordFold, hy, undoQword, rotateLeft_rotateLeft _ 37 27 (by decide),
      mul_mul_of_mul_eq_one_left _ prime1_mul_inverse, UInt64.sub_add_cancel]

/-- The state that became `y` when it absorbed the lane. -/
def undoQwordState (lane y : UInt64) : UInt64 := undoQword y ^^^ round lane

/-- The state after a lane and the lane tell the state before it. -/
theorem undoQwordState_qwordFold (h lane : UInt64) :
    undoQwordState lane (qwordFold h lane) = h :=
  ((xor_eq_iff_left_eq _ _ _).mp (qwordFold_eq_iff.mp rfl)).symm

/-- Every state is that after the given lane, from some state. -/
theorem qwordFold_undoQwordState (lane y : UInt64) :
    qwordFold (undoQwordState lane y) lane = y :=
  qwordFold_eq_iff.mpr (xor_cancel_right _ _)

/-- For a fixed lane every state is reached from exactly one state. -/
theorem qwordFold_bijective_state (lane : UInt64) :
    Function.Bijective fun h => qwordFold h lane :=
  Function.bijective_iff_has_inverse.mpr
    ⟨undoQwordState lane, fun h => undoQwordState_qwordFold h lane, qwordFold_undoQwordState lane⟩

/-- The lane that the state `h` absorbed to become `y`. -/
def undoQwordLane (h y : UInt64) : UInt64 := undoRound (h ^^^ undoQword y)

/-- The states before and after a lane tell the lane. -/
theorem undoQwordLane_qwordFold (h lane : UInt64) : undoQwordLane h (qwordFold h lane) = lane := by
  have hlane : round lane = h ^^^ undoQword (qwordFold h lane) :=
    (xor_eq_iff_right_eq _ _ _).mp (qwordFold_eq_iff.mp rfl)
  rw [undoQwordLane, ← hlane, undoRound_round]

/-- Every state is reached from the given one by some lane. -/
theorem qwordFold_undoQwordLane (h y : UInt64) : qwordFold h (undoQwordLane h y) = y := by
  apply qwordFold_eq_iff.mpr
  rw [undoQwordLane, round_undoRound, xor_cancel_left]

/-- For a fixed state every state is reached by exactly one lane. -/
theorem qwordFold_bijective_lane (h : UInt64) : Function.Bijective (qwordFold h) :=
  Function.bijective_iff_has_inverse.mpr
    ⟨undoQwordLane h, undoQwordLane_qwordFold h, qwordFold_undoQwordLane h⟩

/-! ## The absorption of a byte -/

/-- The exclusive or of state and multiplied byte that was turned into the state `y`. -/
def undoByte (y : UInt64) : UInt64 := rotateLeft (y * prime1Inverse) 53

/-- A state after a byte says no more and no less than the exclusive or that went into it. -/
theorem byteFold_eq_iff {h y : UInt64} {b : UInt8} :
    byteFold h b = y ↔ h ^^^ (b.toUInt64 * prime5) = undoByte y := by
  constructor
  · rintro rfl
    rw [undoByte, byteFold, mul_mul_of_mul_eq_one _ prime1_mul_inverse,
      rotateLeft_rotateLeft _ 11 53 (by decide)]
  · intro hy
    rw [byteFold, hy, undoByte, rotateLeft_rotateLeft _ 53 11 (by decide),
      mul_mul_of_mul_eq_one_left _ prime1_mul_inverse]

/-- The state that became `y` when it absorbed the byte. -/
def undoByteState (b : UInt8) (y : UInt64) : UInt64 := undoByte y ^^^ (b.toUInt64 * prime5)

/-- The state after a byte and the byte tell the state before it. -/
theorem undoByteState_byteFold (h : UInt64) (b : UInt8) : undoByteState b (byteFold h b) = h :=
  ((xor_eq_iff_left_eq _ _ _).mp (byteFold_eq_iff.mp rfl)).symm

/-- Every state is that after the given byte, from some state. -/
theorem byteFold_undoByteState (b : UInt8) (y : UInt64) : byteFold (undoByteState b y) b = y :=
  byteFold_eq_iff.mpr (xor_cancel_right _ _)

/-- For a fixed byte every state is reached from exactly one state. -/
theorem byteFold_bijective_state (b : UInt8) : Function.Bijective fun h => byteFold h b :=
  Function.bijective_iff_has_inverse.mpr
    ⟨undoByteState b, fun h => undoByteState_byteFold h b, byteFold_undoByteState b⟩

/-- A byte can be told from its product with the multiplier. -/
theorem mul_prime5_injective : Function.Injective fun b : UInt8 => b.toUInt64 * prime5 := by
  intro b c h
  exact UInt8.toUInt64_inj.mp (mul_injective prime5_mul_inverse h)

/-- For a fixed state the byte can be told from the state after it. -/
theorem byteFold_injective_byte (h : UInt64) : Function.Injective (byteFold h) := by
  intro b c hbc
  have hxor := (byteFold_eq_iff.mp hbc).trans (byteFold_eq_iff.mp rfl).symm
  exact mul_prime5_injective ((UInt64.xor_right_inj h).mp hxor)

/-- The byte that the state `h` absorbed to become `y`, if any byte leads there. -/
def undoByteInput? (h y : UInt64) : Option UInt8 :=
  let b := (h ^^^ undoByte y) * prime5Inverse
  if b.toUInt8.toUInt64 = b then some b.toUInt8 else none

/-- A byte is found exactly if it leads from the one state to the other. -/
theorem undoByteInput?_eq_some_iff {h y : UInt64} {b : UInt8} :
    undoByteInput? h y = some b ↔ byteFold h b = y := by
  have hproduct : byteFold h b = y ↔ (h ^^^ undoByte y) * prime5Inverse = b.toUInt64 := by
    rw [byteFold_eq_iff, xor_eq_iff_right_eq]
    constructor
    · intro hb
      rw [← hb, mul_mul_of_mul_eq_one _ prime5_mul_inverse]
    · intro hb
      rw [← hb, mul_mul_of_mul_eq_one_left _ prime5_mul_inverse]
  rw [hproduct]
  simp only [undoByteInput?, Option.ite_none_right_eq_some, Option.some.injEq]
  -- what is left is any word, and only some words are bytes
  generalize (h ^^^ undoByte y) * prime5Inverse = x
  constructor
  · rintro ⟨hx, rfl⟩
    exact hx.symm
  · rintro rfl
    rw [UInt8.toUInt8_toUInt64]
    exact ⟨rfl, rfl⟩

/-! ## All steps -/

/-- The finishing step, the scrambling of a lane and, for a fixed input, both absorption steps are
permutations of the states, and so is the absorption of a lane into a fixed state; each is undone by
an explicit inverse in both orders. Bytes are too few to reach every state: there the inverse finds
the byte exactly if there is one. -/
theorem steps_undone :
    (Function.Bijective avalanche ∧ (∀ h, undoAvalanche (avalanche h) = h) ∧
      ∀ y, avalanche (undoAvalanche y) = y) ∧
    (Function.Bijective round ∧ (∀ lane, undoRound (round lane) = lane) ∧
      ∀ y, round (undoRound y) = y) ∧
    (∀ lane, (Function.Bijective fun h => qwordFold h lane) ∧
      (∀ h, undoQwordState lane (qwordFold h lane) = h) ∧
      ∀ y, qwordFold (undoQwordState lane y) lane = y) ∧
    (∀ h, Function.Bijective (qwordFold h) ∧
      (∀ lane, undoQwordLane h (qwordFold h lane) = lane) ∧
      ∀ y, qwordFold h (undoQwordLane h y) = y) ∧
    (∀ b, (Function.Bijective fun h => byteFold h b) ∧
      (∀ h, undoByteState b (byteFold h b) = h) ∧
      ∀ y, byteFold (undoByteState b y) b = y) ∧
    (∀ h, Function.Injective (byteFold h) ∧
      ∀ b y, undoByteInput? h y = some b ↔ byteFold h b = y) := by
  refine ⟨?_, ?_, ?_, ?_, ?_, ?_⟩
  · exact ⟨avalanche_bijective, undoAvalanche_avalanche, avalanche_undoAvalanche⟩
  · exact ⟨round_bijective, undoRound_round, round_undoRound⟩
  · intro lane
    exact ⟨qwordFold_bijective_state lane, fun h => undoQwordState_qwordFold h lane,
      qwordFold_undoQwordState lane⟩
  · intro h
    exact ⟨qwordFold_bijective_lane h, undoQwordLane_qwordFold h, qwordFold_undoQwordLane h⟩
  · intro b
    exact ⟨byteFold_bijective_state b, fun h => undoByteState_byteFold h b,
      byteFold_undoByteState b⟩
  · intro h
    exact ⟨byteFold_injective_byte h, fun b y => undoByteInput?_eq_some_iff⟩

end KeyHash.Mix
