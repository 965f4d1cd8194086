import KeyHash.Proofs.Binding.Outcome
import KeyHash.Session

/-! # Runs of a session

A step puts a hasher into at most one slot, and what it puts there it has from a binding that
succeeds or from another slot (`after_eq_or_put`). So whatever the steps, every slot holds a hasher
that binding yields (`AllBound.run`), and it keeps it until a step fills that slot again
(`get?_run_of_spares`). Answers depend on what the slot holds alone, and only bindings log. -/

namespace KeyHash

variable {C : Catalogue}

namespace BoundHasher

/-- Whether binding the type of the code yields this hasher. -/
def IsBound (b : BoundHasher C) : Prop := (C.keyType b.code).bind.outcome = .ok b.hasher

/-- The strategy of a hasher that binding yields is as wide as its shape. -/
theorem IsBound.width_eq {b : BoundHasher C} (hb : b.IsBound) :
    b.hasher.strategy.width = b.hasher.shape.width :=
  KeyType.width_of_hasher_eq_ok hb

end BoundHasher

namespace Session

/-! ## One step -/

/-- Whether a step puts a hasher into the named slot: by a binding that succeeds, or by a copy from
a slot that is not empty. -/
def Fills (s : Slots C) (name : String) : Step C → Prop
  | .bind slot code => slot = name ∧ ∃ h, (C.keyType code).bind.outcome = .ok h
  | .copy slot target => target = name ∧ ∃ b, s.get? slot = some b
  | .hash _ _ | .apply _ _ | .inspect _ => False

/-- A copy from an empty slot leaves the slots as they were. -/
theorem after_copy_of_none {s : Slots C} {slot target : String} (h : s.get? slot = none) :
    after s (.copy slot target) = s := by
  simp [after, h]

/-- A step either leaves the slots as they were, or fills one of them with a hasher that binding
yields or that another slot holds. -/
theorem after_eq_or_put (s : Slots C) (step : Step C) :
    (after s step = s ∧ ∀ name, ¬ Fills s name step) ∨
      ∃ target b, after s step = s.put target b ∧ Fills s target step ∧
        (b.IsBound ∨ ∃ slot, s.get? slot = some b) := by
  cases step with
  | hash slot keys | apply slot keys | inspect slot => exact .inl ⟨rfl, fun name h => h⟩
  | bind slot code =>
    cases hbind : (C.keyType code).hasher with
    | error e =>
      refine .inl ⟨after_bind_of_error hbind, ?_⟩
      rintro name ⟨-, h, hok⟩
      rw [KeyType.outcome_bind, hbind] at hok
      cases hok
    | ok h => exact .inr ⟨slot, ⟨code, h⟩, after_bind_of_ok hbind, ⟨rfl, h, hbind⟩, .inl hbind⟩
  | copy slot target =>
    cases hslot : s.get? slot with
    | none =>
      refine .inl ⟨after_copy_of_none hslot, ?_⟩
      rintro name ⟨-, b, hb⟩
      rw [hslot] at hb
      cases hb
    | some b => exact .inr ⟨target, b, after_copy hslot, ⟨rfl, b, hslot⟩, .inr ⟨slot, hslot⟩⟩

/-- A slot that a step does not fill holds what it held. -/
theorem get?_after_of_not_fills {s : Slots C} {name : String} {step : Step C}
    (h : ¬ Fills s name step) : (after s step).get? name = s.get? name := by
  obtain ⟨hsame, -⟩ | ⟨target, b, hput, hfills, -⟩ := after_eq_or_put s step
  · rw [hsame]
  · have hne : name ≠ target := fun heq => h (heq ▸ hfills)
    rw [hput, Slots.get?_put_other s b hne]

/-! ## Runs -/

/-- Without steps the slots stay as they are. -/
@[simp] theorem run_nil (s : Slots C) : run s [] = s := rfl

/-- The first step is taken first, and the others from the slots that it leaves. -/
@[simp] theorem run_cons (s : Slots C) (step : Step C) (steps : List (Step C)) :
    run s (step :: steps) = run (after s step) steps := rfl

/-- Whether no step of a sequence fills the named slot. -/
def Spares (name : String) : Slots C → List (Step C) → Prop
  | _, [] => True
  | s, step :: steps => ¬ Fills s name step ∧ Spares name (after s step) steps

/-- A slot that is spared holds what it held. -/
theorem get?_run_of_spares {s : Slots C} {name : String} {steps : List (Step C)}
    (h : Spares name s steps) : (run s steps).get? name = s.get? name := by
  induction steps generalizing s with
  | nil => rfl
  | cons step steps ih =>
    obtain ⟨hstep, hrest⟩ := h
    rw [run_cons, ih hrest, get?_after_of_not_fills hstep]

/-- Whether every slot that is not empty holds a hasher that binding yields. -/
def AllBound (s : Slots C) : Prop := ∀ name b, s.get? name = some b → b.IsBound

/-- Slots that are all empty hold nothing that binding does not yield. -/
theorem allBound_empty : AllBound (.empty : Slots C) := by
  intro name b h
  rw [Slots.get?_empty] at h
  cases h

/-- If slots hold nothing but what binding yields, so they do after a step. -/
theorem AllBound.after {s : Slots C} (hs : AllBound s) (step : Step C) :
    AllBound (after s step) := by
  obtain ⟨hsame, -⟩ | ⟨target, b, hput, -, horigin⟩ := after_eq_or_put s step
  · rwa [hsame]
  · -- a copy is of what some slot held before the step
    have hb : b.IsBound := horigin.elim id fun ⟨slot, hslot⟩ => hs slot b hslot
    intro name held hheld
    rw [hput] at hheld
    by_cases hname : name = target
    · rw [hname, Slots.get?_put_same] at hheld
      cases hheld
      exact hb
    · rw [Slots.get?_put_other s b hname] at hheld
      exact hs name held hheld

/-- If slots hold nothing but what binding yields, so they do after a run. -/
theorem AllBound.run {s : Slots C} (hs : AllBound s) (steps : List (Step C)) :
    AllBound (run s steps) := by
  induction steps generalizing s with
  | nil => exact hs
  | cons step steps ih => exact ih (hs.after step)

/-! ## Answers -/

/-- Hashes depend on nothing but the hasher that the slot holds. -/
theorem answer_hash_congr {s s' : Slots C} {name name' : String}
    (h : s.get? name = s'.get? name') (keys : (code : C.Code) → List (C.Key code)) :
    answer s (.hash name keys) = answer s' (.hash name' keys) := by
  simp only [answer, h]

/-- The function of a hasher, taken out of it, hashes as the hasher does. -/
theorem answer_apply (s : Slots C) (name : String) (keys : (code : C.Code) → List (C.Key code)) :
    answer s (.apply name keys) = answer s (.hash name keys) := by
  simp only [answer]
  cases s.get? name <;> rfl

/-! ## The log -/

/-- The records that a step logs, whatever the slots hold. -/
def Step.log : Step C → List LogRecord
  | .bind _ code => (C.keyType code).bind.log
  | .hash _ _ | .apply _ _ | .inspect _ | .copy _ _ => []

/-- Whether a step binds a type. -/
def Step.isBind : Step C → Bool
  | .bind _ _ => true
  | .hash _ _ | .apply _ _ | .inspect _ | .copy _ _ => false

/-- What a step logs does not depend on the slots. -/
theorem log_answer (s : Slots C) (step : Step C) : (answer s step).log = step.log := by
  cases step with
  | bind slot code =>
    simp only [answer, Step.log]
    cases (C.keyType code).bind.outcome <;> rfl
  | hash slot keys | apply slot keys | inspect slot | copy slot target =>
    simp only [answer, Step.log]
    cases s.get? slot <;> rfl

/-- A binding logs one record, and no other step logs any. -/
theorem length_log (step : Step C) : step.log.length = if step.isBind then 1 else 0 := by
  cases step <;> rfl

/-- The log of a run is that of its steps, one after the other. -/
theorem flatMap_log_answers (s : Slots C) (steps : List (Step C)) :
    (answers s steps).flatMap (·.log) = steps.flatMap Step.log := by
  induction steps generalizing s with
  | nil => rfl
  | cons step steps ih =>
    rw [answers, List.flatMap_cons, List.flatMap_cons, log_answer, ih]

/-- A run logs one record for each of its bindings. -/
theorem length_log_answers (s : Slots C) (steps : List (Step C)) :
    ((answers s steps).flatMap (·.log)).length = steps.countP Step.isBind := by
  rw [flatMap_log_answers]
  induction steps with
  | nil => rfl
  | cons step steps ih =>
    rw [List.flatMap_cons, List.length_append, length_log, ih, List.countP_cons, Nat.add_comm]

/-! ## Whole sessions -/

/-- After any steps a slot that is not empty holds what binding yields for some type, with a
strategy as wide as the shape. A binding that succeeds and a copy of a hasher change one slot, every
other step none. So the hashes of a slot stay the same, asked of the hasher or of its function,
until a step fills the slot; a copy hashes as its source did, whatever becomes of the source; and
there are as many log records as bindings. -/
theorem slots_keep_hashers (C : Catalogue) :
    (∀ (steps : List (Step C)) (name : String) (b : BoundHasher C),
      (run .empty steps).get? name = some b →
        (C.keyType b.code).bind.outcome = .ok b.hasher ∧
          b.hasher.strategy.width = b.hasher.shape.width) ∧
    (∀ (s : Slots C) (name : String) (keys : (code : C.Code) → List (C.Key code)),
      after s (.hash name keys) = s ∧ after s (.apply name keys) = s ∧
        after s (.inspect name) = s) ∧
    (∀ (s : Slots C) (name : String) (code : C.Code) (e : BindError),
      (C.keyType code).bind.outcome = .error e → after s (.bind name code) = s) ∧
    (∀ (s : Slots C) (name target : String),
      s.get? name = none → after s (.copy name target) = s) ∧
    (∀ (s : Slots C) (name : String) (code : C.Code) (h : Hasher (C.Key code)),
      (C.keyType code).bind.outcome = .ok h →
        (after s (.bind name code)).get? name = some ⟨code, h⟩ ∧
          ∀ other, other ≠ name → (after s (.bind name code)).get? other = s.get? other) ∧
    (∀ (s : Slots C) (slot target : String) (b : BoundHasher C), s.get? slot = some b →
      (after s (.copy slot target)).get? target = some b ∧
        ∀ other, other ≠ target → (after s (.copy slot target)).get? other = s.get? other) ∧
    (∀ (s : Slots C) (name : String) (segment : List (Step C)), Spares name s segment →
      ∀ keys, answer (run s segment) (.hash name keys) = answer s (.hash name keys) ∧
        answer s (.apply name keys) = answer s (.hash name keys) ∧
        answer (run s segment) (.apply name keys) = answer s (.hash name keys)) ∧
    (∀ (s : Slots C) (slot target : String) (b : BoundHasher C) (segment : List (Step C)),
      s.get? slot = some b → Spares target (after s (.copy slot target)) segment →
        ∀ keys, answer (run (after s (.copy slot target)) segment) (.hash target keys) =
            answer s (.hash slot keys) ∧
          answer (run (after s (.copy slot target)) segment) (.apply target keys) =
            answer s (.hash slot keys)) ∧
    (∀ steps : List (Step C),
      ((answers .empty steps).flatMap (·.log)).length = steps.countP Step.isBind) := by
  refine ⟨?_, fun s name keys => ⟨rfl, rfl, rfl⟩, fun s name code e => after_bind_of_error,
    fun s name target => after_copy_of_none, ?_, ?_, ?_, ?_, length_log_answers .empty⟩
  · intro steps name b hb
    have hbound : b.IsBound := allBound_empty.run steps name b hb
    exact ⟨hbound, hbound.width_eq⟩
  · intro s name code h hok
    rw [after_bind_of_ok hok]
    exact ⟨Slots.get?_put_same s name _, fun other => Slots.get?_put_other s _⟩
  · intro s slot target b hslot
    rw [after_copy hslot]
    exact ⟨Slots.get?_put_same s target b, fun other => Slots.get?_put_other s b⟩
  · intro s name segment hspares keys
    have hkept := answer_hash_congr (get?_run_of_spares hspares) keys
    exact ⟨hkept, answer_apply s name keys, (answer_apply _ name keys).trans hkept⟩
  · intro s slot target b segment hslot hspares keys
    -- the copy is what the source held, and the rest of the run leaves it alone
    have hcopy : (after s (.copy slot target)).get? target = s.get? slot := by
      rw [after_copy hslot, Slots.get?_put_same, hslot]
    have hkept := answer_hash_congr ((get?_run_of_spares hspares).trans hcopy) keys
    exact ⟨hkept, (answer_apply _ target keys).trans hkept⟩

/-! ## A session of two types -/

/-- Words, which can be bound, and points, which cannot. -/
def wordsAndPoints : Catalogue where
  Code := Bool
  Key _ := UInt64
  keyType
    | true => FixedType.uint64.keyType
    | false => { name := "Point", shape := .uninterpreted 8 }

/-- The hasher of words in one slot, after a binding of points into another has failed. -/
def boundWords : Slots wordsAndPoints := run .empty [.bind "a" true, .bind "b" false]

/-- The steps after the first copy fill the source again, fail over the copy and find an empty slot:
nothing of this is seen where the copy is used. -/
theorem slots_keep_words :
    (∃ b, boundWords.get? "a" = some b ∧ b.hasher.strategy.width = b.hasher.shape.width) ∧
      boundWords = after .empty (.bind "a" true) ∧ after boundWords (.copy "c" "a") = boundWords ∧
      (after boundWords (.bind "b" true)).get? "a" = boundWords.get? "a" ∧
      (after boundWords (.copy "a" "b")).get? "a" = boundWords.get? "a" ∧
      (∀ keys, answer (run boundWords [.bind "b" true, .copy "c" "a"]) (.apply "a" keys) =
        answer boundWords (.hash "a" keys)) ∧
      (∀ keys, answer (run (after boundWords (.copy "a" "b"))
          [.bind "a" true, .bind "b" false, .copy "c" "b"]) (.apply "b" keys) =
        answer boundWords (.hash "a" keys)) ∧
      ((answers (.empty : Slots wordsAndPoints)
        [.bind "a" true, .bind "b" false, .copy "a" "b", .bind "b" false]).flatMap
          (·.log)).length = 3 := by
  obtain ⟨hbound, -, hfailed, hnothing, hbind, hcopy, hkeep, hsource, hlog⟩ :=
    slots_keep_hashers wordsAndPoints
  have ha : boundWords.get? "a" = some ⟨true, ⟨.integer 8, .qword, Mix.qword⟩⟩ := rfl
  have hc : boundWords.get? "c" = none := rfl
  have hkept : Spares "a" boundWords [.bind "b" true, .copy "c" "a"] := by
    refine ⟨fun ⟨hslot, _⟩ => absurd hslot (by decide), ?_, trivial⟩
    rintro ⟨-, b, hb⟩
    cases hb
  have hcopied : Spares "b" (after boundWords (.copy "a" "b"))
      [.bind "a" true, .bind "b" false, .copy "c" "b"] := by
    refine ⟨fun ⟨hslot, _⟩ => absurd hslot (by decide), ?_, ?_, trivial⟩
    · rintro ⟨-, h, hok⟩
      cases hok
    · rintro ⟨-, b, hb⟩
      cases hb
  exact ⟨⟨_, ha, (hbound _ "a" _ ha).2⟩, hfailed (after .empty (.bind "a" true)) "b" false _ rfl,
    hnothing boundWords "c" "a" hc, (hbind boundWords "b" true _ rfl).2 "a" (by decide),
    (hcopy boundWords "a" "b" _ ha).2 "a" (by decide),
    fun keys => (hkeep boundWords "a" _ hkept keys).2.2,
    fun keys => (hsource boundWords "a" "b" _ _ ha hcopied keys).2, hlog _⟩

end Session

end KeyHash
