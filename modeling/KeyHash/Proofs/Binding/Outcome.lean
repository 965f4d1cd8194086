import KeyHash.Binding
import KeyHash.Key.Fixed

/-! # What binding yields

A key type may offer any function under any strategy, also such as do not fit its shape. Binding
looks at two things only: the strategy of the shape, and what is offered under it. If both are there
the hasher has this shape, this strategy and this function, so that the widths agree whatever else
is offered (`hasher_of_offer`, `width_of_hasher_eq_ok`); if either is missing the error carries the
shape (`hasher_eq_error_iff`). -/

namespace KeyHash.KeyType

variable {Key : Type} {t u : KeyType Key}

/-! ## Success and failure -/

/-- A function that is offered under the strategy of the shape is bound. -/
theorem hasher_of_offer {s : Strategy} {f : Key → UInt64} (hs : classify t.shape = .ok s)
    (hf : t.offer s = some f) : t.hasher = .ok ⟨t.shape, s, f⟩ :=
  hasher_eq_ok_iff.mpr ⟨rfl, hs, hf⟩

/-- What is bound has the width of the keys. -/
theorem width_of_hasher_eq_ok {h : Hasher Key} (hok : t.hasher = .ok h) :
    h.strategy.width = h.shape.width := by
  obtain ⟨hshape, hs, -⟩ := hasher_eq_ok_iff.mp hok
  rw [hshape]
  exact width_of_classify hs

/-- Binding fails exactly if nothing is offered under a strategy of the shape, and always with an
error that carries the shape. -/
theorem hasher_eq_error_iff {e : BindError} :
    t.hasher = .error e ↔
      e = .unsupportedShape t.shape ∧ ∀ s, classify t.shape = .ok s → t.offer s = none := by
  unfold hasher
  cases hc : classify t.shape with
  | error refusal =>
    -- the shape has no strategy, and the refusal is passed on
    rw [error_of_classify hc]
    simp [eq_comm]
  | ok s => cases ho : t.offer s <;> simp [ho, eq_comm]

/-- Binding does not see what is offered under other strategies. -/
theorem hasher_congr (hshape : u.shape = t.shape)
    (hoffer : ∀ s, classify t.shape = .ok s → u.offer s = t.offer s) : u.hasher = t.hasher := by
  unfold hasher
  rw [hshape]
  cases hc : classify t.shape with
  | error e => rfl
  | ok s => simp only [hoffer s hc]

/-! ## The record of a binding -/

/-- A success is logged for debugging, with the shape and the strategy. -/
theorem bindRecord_ok (t : KeyType Key) (h : Hasher Key) :
    t.bindRecord (.ok h) =
      ⟨.debug, "keymix::binding",
        "Bound " ++ t.name ++ " (" ++ h.shape.text ++ ") to " ++ h.strategy.text⟩ := rfl

/-- A failure is logged as a warning, with the text of the error. -/
theorem bindRecord_error (t : KeyType Key) (e : BindError) :
    t.bindRecord (.error e) =
      ⟨.warn, "keymix::binding", "Cannot bind " ++ t.name ++ ": " ++ e.text⟩ := rfl

/-- A record says of a type no more than its name. -/
theorem bindRecord_congr (hname : u.name = t.name) (r : Except BindError (Hasher Key)) :
    u.bindRecord r = t.bindRecord r := by
  cases r with
  | ok h => rw [bindRecord_ok, bindRecord_ok, hname]
  | error e => rw [bindRecord_error, bindRecord_error, hname]

/-! ## Every key type -/

/-- Whatever a key type offers, it can be bound exactly if its shape has a strategy under which a
function is offered. Then the hasher has that shape, that strategy and that function; otherwise the
error carries the shape. What is offered under any other strategy makes no difference. Either way
one record is logged, which names the type and tells the result. -/
theorem bind_eq_iff_offer (t : KeyType Key) :
    ((∃ h, t.bind.outcome = .ok h) ↔
      ∃ s f, classify t.shape = .ok s ∧ t.offer s = some f) ∧
    (∀ s f, classify t.shape = .ok s → t.offer s = some f →
      ∃ h, t.bind.outcome = .ok h ∧ h.shape = t.shape ∧ h.strategy = s ∧
        h.strategy.width = h.shape.width ∧ (∀ key, h.hash key = f key ∧ h.function key = f key) ∧
        t.bind.log = [⟨.debug, "keymix::binding",
          "Bound " ++ t.name ++ " (" ++ h.shape.text ++ ") to " ++ h.strategy.text⟩]) ∧
    ((¬ ∃ s f, classify t.shape = .ok s ∧ t.offer s = some f) →
      ∃ e, t.bind.outcome = .error e ∧ e = .unsupportedShape t.shape ∧
        t.bind.log = [⟨.warn, "keymix::binding", "Cannot bind " ++ t.name ++ ": " ++ e.text⟩]) ∧
    (∀ u : KeyType Key, u.shape = t.shape →
      (∀ s, classify t.shape = .ok s → u.offer s = t.offer s) →
        u.bind.outcome = t.bind.outcome ∧ (u.name = t.name → u.bind = t.bind)) := by
  refine ⟨?_, ?_, ?_, ?_⟩
  · constructor
    · rintro ⟨h, hok⟩
      obtain ⟨-, hs, hf⟩ := hasher_eq_ok_iff.mp hok
      exact ⟨h.strategy, h.function, hs, hf⟩
    · rintro ⟨s, f, hs, hf⟩
      exact ⟨_, hasher_of_offer hs hf⟩
  · intro s f hs hf
    have hok := hasher_of_offer hs hf
    refine ⟨_, hok, rfl, rfl, width_of_hasher_eq_ok hok, fun key => ⟨rfl, rfl⟩, ?_⟩
    rw [log_bind, hok, bindRecord_ok]
  · intro hnone
    have herror : t.hasher = .error (.unsupportedShape t.shape) := by
      refine hasher_eq_error_iff.mpr ⟨rfl, fun s hs => ?_⟩
      rw [Option.eq_none_iff_forall_ne_some]
      intro f hf
      exact hnone ⟨s, f, hs, hf⟩
    refine ⟨_, herror, rfl, ?_⟩
    rw [log_bind, herror, bindRecord_error]
  · intro u hshape hoffer
    have hsame := hasher_congr hshape hoffer
    refine ⟨hsame, fun hname => ?_⟩
    rw [bind, bind, hsame, bindRecord_congr hname]

/-! ## Types that offer more than fits -/

/-- Integers of four bytes, with a constant function offered wherever it makes no difference. -/
def careless : KeyType UInt32 where
  name := "Careless"
  shape := .integer 4
  offer s := some (if s = .dword then Mix.dword else fun _ => 0)

/-- Floating-point numbers of two bytes, with a function offered under every strategy. -/
def half : KeyType UInt16 where
  name := "Half"
  shape := .float 2
  offer _ := some Mix.word

/-- Constants under the other strategies do not matter: the hasher is that of integers of four
bytes. And functions under all strategies do not help a shape that has none. -/
theorem bind_careless_half :
    (∃ h, careless.bind.outcome = .ok h ∧
      careless.bind.log =
        [⟨.debug, "keymix::binding", "Bound Careless (4-byte integer) to dword mixer"⟩] ∧
      h.strategy.width = some 4 ∧ (∀ key, h.hash key = Mix.dword key) ∧
      FixedType.uint32.keyType.bind.outcome = .ok h) ∧
    half.bind.outcome = .error (.unsupportedShape (.float 2)) ∧
    half.bind.log = [⟨.warn, "keymix::binding",
      "Cannot bind Half: Unsupported key shape: 2-byte float"⟩] := by
  constructor
  · obtain ⟨-, hoffered, -, hother⟩ := bind_eq_iff_offer careless
    obtain ⟨h, hok, hshape, hstrategy, hwidth, hhash, hlog⟩ := hoffered .dword Mix.dword rfl rfl
    rw [hshape, hstrategy] at hlog
    refine ⟨h, hok, hlog, ?_, fun key => (hhash key).1, ?_⟩
    · rw [hwidth, hshape]
      rfl
    · obtain ⟨hsame, -⟩ := hother FixedType.uint32.keyType rfl fun s hs => by cases hs; rfl
      exact hsame.trans hok
  · obtain ⟨-, -, hrefused, -⟩ := bind_eq_iff_offer half
    obtain ⟨e, herror, rfl, hlog⟩ := hrefused fun ⟨s, f, hs, hf⟩ => by cases hs
    exact ⟨herror, hlog⟩

end KeyHash.KeyType
