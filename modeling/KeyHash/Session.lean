import KeyHash.Binding

/-! # Sessions

In a session hashers are kept in named slots, which are empty at first. The key types that can be
bound come from a catalogue. A slot is filled by a binding that succeeds or by a copy from another
slot; using or inspecting a hasher changes nothing. -/

namespace KeyHash

/-- The key types that a session can bind, by their codes. -/
structure Catalogue where
  /-- What a key type is called by. -/
  Code : Type
  /-- The keys of the type of a code. -/
  Key : Code → Type
  /-- The key type of a code. -/
  keyType : (code : Code) → KeyType (Key code)

/-- A hasher for the keys of some type of the catalogue. -/
structure BoundHasher (C : Catalogue) where
  /-- The code of the type. -/
  code : C.Code
  /-- The hasher. -/
  hasher : Hasher (C.Key code)

namespace BoundHasher

variable {C : Catalogue}

/-- The structure of the hasher. -/
def describe (b : BoundHasher C) : Description := b.hasher.describe (C.keyType b.code).name

end BoundHasher

/-- The slots of a session. -/
structure Slots (C : Catalogue) where
  /-- The slots that hold a hasher, by their names. -/
  filled : List (String × BoundHasher C)

namespace Slots

variable {C : Catalogue}

/-- All slots empty. -/
def empty : Slots C := ⟨[]⟩

/-- What a slot holds. -/
def get? (s : Slots C) (name : String) : Option (BoundHasher C) := s.filled.lookup name

/-- The slots with a hasher put into one of them, in place of what it held. -/
def put (s : Slots C) (name : String) (b : BoundHasher C) : Slots C :=
  ⟨(name, b) :: s.filled.filter (·.1 ≠ name)⟩

/-- Empty slots hold nothing. -/
@[simp] theorem get?_empty (name : String) : (empty : Slots C).get? name = none := rfl

/-- A slot holds what was put into it last. -/
@[simp] theorem get?_put_same (s : Slots C) (name : String) (b : BoundHasher C) :
    (s.put name b).get? name = some b := by
  simp [get?, put]

/-- The other slots hold what they held. -/
theorem get?_put_other (s : Slots C) {name other : String} (b : BoundHasher C)
    (h : other ≠ name) : (s.put name b).get? other = s.get? other := by
  obtain ⟨filled⟩ := s
  have hne : (other == name) = false := by simp [h]
  simp only [get?, put, List.lookup_cons, hne]
  induction filled with
  | nil => rfl
  | cons slot filled ih =>
    obtain ⟨label, held⟩ := slot
    by_cases hlabel : label = name
    · -- the slot that is replaced is not the one looked for
      subst hlabel
      simpa [List.lookup_cons, hne] using ih
    · cases hother : other == label with
      | true => simp [List.lookup_cons, hlabel, hother]
      | false => simpa [List.lookup_cons, hlabel, hother] using ih

end Slots

namespace Session

variable {C : Catalogue}

/-- One step of a session. Keys are given for whatever type the slot turns out to hold. -/
inductive Step (C : Catalogue) where
  /-- Bind a type and put the hasher into a slot. -/
  | bind (slot : String) (code : C.Code)
  /-- Hash keys with the hasher of a slot. -/
  | hash (slot : String) (keys : (code : C.Code) → List (C.Key code))
  /-- Hash keys with the function of a slot's hasher, taken out of it. -/
  | apply (slot : String) (keys : (code : C.Code) → List (C.Key code))
  /-- Look at the hasher of a slot. -/
  | inspect (slot : String)
  /-- Put a copy of a slot's hasher into another slot. -/
  | copy (slot target : String)

/-- What a step tells. -/
inductive Answer (C : Catalogue) where
  /-- The hasher that was bound. -/
  | bound (b : BoundHasher C)
  /-- The reason why nothing was bound. -/
  | refused (e : BindError)
  /-- The hashes of the keys, in order. -/
  | hashes (values : List UInt64)
  /-- The hasher of the slot. -/
  | hasher (b : BoundHasher C)
  /-- The slot was empty. -/
  | unbound

/-- The slots after a step. -/
def after (s : Slots C) : Step C → Slots C
  | .bind slot code =>
    match (C.keyType code).bind.outcome with
    | .ok hasher => s.put slot ⟨code, hasher⟩
    | .error _ => s
  | .copy slot target =>
    match s.get? slot with
    | some b => s.put target b
    | none => s
  | .hash _ _ | .apply _ _ | .inspect _ => s

/-- The answer to a step, with the records that it logged. -/
def answer (s : Slots C) : Step C → Logged (Answer C)
  | .bind _ code =>
    let result := (C.keyType code).bind
    match result.outcome with
    | .ok hasher => ⟨.bound ⟨code, hasher⟩, result.log⟩
    | .error e => ⟨.refused e, result.log⟩
  | .hash slot keys =>
    match s.get? slot with
    | some b => ⟨.hashes ((keys b.code).map b.hasher.hash), []⟩
    | none => ⟨.unbound, []⟩
  | .apply slot keys =>
    match s.get? slot with
    | some b => ⟨.hashes ((keys b.code).map b.hasher.function), []⟩
    | none => ⟨.unbound, []⟩
  | .inspect slot | .copy slot _ =>
    match s.get? slot with
    | some b => ⟨.hasher b, []⟩
    | none => ⟨.unbound, []⟩

/-- A binding that fails leaves the slots as they were. -/
theorem after_bind_of_error {s : Slots C} {slot : String} {code : C.Code} {e : BindError}
    (h : (C.keyType code).hasher = .error e) : after s (.bind slot code) = s := by
  simp [after, h]

/-- A binding that succeeds fills its slot. -/
theorem after_bind_of_ok {s : Slots C} {slot : String} {code : C.Code}
    {hasher : Hasher (C.Key code)} (h : (C.keyType code).hasher = .ok hasher) :
    after s (.bind slot code) = s.put slot ⟨code, hasher⟩ := by
  simp [after, h]

/-- A copy of what a slot holds fills the other slot. -/
theorem after_copy {s : Slots C} {slot target : String} {b : BoundHasher C}
    (h : s.get? slot = some b) :
    after s (.copy slot target) = s.put target b := by
  simp [after, h]

/-- The slots after a sequence of steps. -/
def run (s : Slots C) (steps : List (Step C)) : Slots C := steps.foldl after s

/-- The answers to a sequence of steps. -/
def answers (s : Slots C) : List (Step C) → List (Logged (Answer C))
  | [] => []
  | step :: steps => answer s step :: answers (after s step) steps

end Session

end KeyHash
