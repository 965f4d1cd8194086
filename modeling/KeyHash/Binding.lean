import KeyHash.Hasher
import KeyHash.Key.Type
import KeyHash.Log

/-! # Binding a key type to its hash function

Binding takes the strategy of the type's shape and the function that the type offers under it, and
keeps both with the shape as a hasher. It fails if the shape has no strategy or the type offers
nothing under it; either way the error names the shape. Every binding leaves one log record.
`hasher_eq_ok_iff` says which hasher a type has. -/

namespace KeyHash

namespace KeyType

variable {Key : Type}

/-- The hasher of a key type, if its shape has a strategy under which the type offers a function. -/
def hasher (t : KeyType Key) : Except BindError (Hasher Key) :=
  match classify t.shape with
  | .error e => .error e
  | .ok strategy =>
    match t.offer strategy with
    | some function => .ok ⟨t.shape, strategy, function⟩
    | none => .error (.unsupportedShape t.shape)

/-- The log record of a binding of the type. -/
def bindRecord (t : KeyType Key) : Except BindError (Hasher Key) → LogRecord
  | .ok h =>
    ⟨.debug, "keymix::binding",
      "Bound " ++ t.name ++ " (" ++ h.shape.text ++ ") to " ++ h.strategy.text⟩
  | .error e => ⟨.warn, "keymix::binding", "Cannot bind " ++ t.name ++ ": " ++ e.text⟩

/-- Bind the type to its hash function, and log the result. -/
def bind (t : KeyType Key) : Logged (Except BindError (Hasher Key)) :=
  ⟨t.hasher, [t.bindRecord t.hasher]⟩

/-- Binding yields a hasher exactly if the shape's strategy is the hasher's and the type offers the
hasher's function under it. -/
theorem hasher_eq_ok_iff {t : KeyType Key} {h : Hasher Key} :
    t.hasher = .ok h ↔
      h.shape = t.shape ∧ classify t.shape = .ok h.strategy ∧
        t.offer h.strategy = some h.function := by
  obtain ⟨shape, strategy, function⟩ := h
  unfold hasher
  cases hc : classify t.shape with
  | error e => simp
  | ok s =>
    cases ho : t.offer s with
    | none =>
      -- nothing is offered under the one strategy that comes into question
      simp only [reduceCtorEq, false_iff, not_and, ho]
      rintro - hs
      cases hs
      simp [ho]
    | some f =>
      simp only [ho, Except.ok.injEq, Hasher.mk.injEq]
      constructor
      · rintro ⟨rfl, rfl, rfl⟩
        exact ⟨rfl, rfl, ho⟩
      · rintro ⟨rfl, rfl, hf⟩
        rw [ho] at hf
        cases hf
        exact ⟨rfl, rfl, rfl⟩

/-- The outcome of binding is the hasher of the type, or the reason why there is none. -/
@[simp] theorem outcome_bind (t : KeyType Key) : t.bind.outcome = t.hasher := rfl

/-- Binding logs one record, whatever the outcome. -/
@[simp] theorem log_bind (t : KeyType Key) : t.bind.log = [t.bindRecord t.hasher] := rfl

end KeyType

end KeyHash
