import KeyHash.Proofs.Binding.Outcome
import KeyHash.Proofs.Text.Digits

/-! # Shapes from their texts

A shape is shown in six ways: in words, by its structure on one line or over several, and each of
these within the error that refuses it. All of them write the width in decimal and have no other
digits, so the digits of a text are those of the width, and what is left of it when they are taken
out depends on the kind alone (`SpellsWidth`). Whatever shows a shape in such a manner can be read
back by `Shape.recover`, and so no two shapes have the same text. -/

namespace KeyHash

/-- Indentation is made of spaces, which are no digits. -/
@[simp] theorem digitsIn_indentation (level : Nat) :
    digitsIn (Description.indentation level) = [] := by
  rw [digitsIn, Description.indentation, String.toList_ofList, List.filter_eq_nil_iff]
  intro c hc
  rw [List.eq_of_mem_replicate hc]
  decide

/-! ## Kind and width -/

namespace Shape

/-- The shape of the same kind at another width. -/
def withWidth (w : Nat) : Shape → Shape
  | .integer _ => .integer w
  | .float _ => .float w
  | .complex _ => .complex w
  | .bytes => .bytes
  | .uninterpreted _ => .uninterpreted w

/-- One shape of each kind, without any width if it has one. -/
def kinds : List Shape := [.integer 0, .float 0, .complex 0, .bytes, .uninterpreted 0]

/-- The digits of the width, if there is one. -/
def widthDigits (s : Shape) : List Char := s.width.elim [] decimalDigits

/-- Without its width every shape is one of the listed kinds. -/
theorem withWidth_zero_mem_kinds (s : Shape) : s.withWidth 0 ∈ kinds := by
  cases s <;> simp [withWidth, kinds]

/-- A shape is put together from its kind and the number that its digits are. -/
theorem withWidth_ofDigitChars (s : Shape) :
    (s.withWidth 0).withWidth (Nat.ofDigitChars 10 s.widthDigits 0) = s := by
  cases s <;> simp [withWidth, widthDigits, width]

/-- The shape that is shown by a text, where `print` shows shapes: the number in the text is taken
for the width, and the kind is the one that gives the text back. -/
def recover (print : Shape → String) (text : String) : Option Shape :=
  (kinds.map (·.withWidth (numberIn text))).find? fun s => print s = text

/-- A shape that is found in a text is shown by that text. -/
theorem print_eq_of_recover {print : Shape → String} {text : String} {s : Shape}
    (h : recover print text = some s) : print s = text := by
  simpa using List.find?_some h

end Shape

/-! ## Texts that spell the width -/

/-- The texts of shapes have no digits but those of the width, and have different words for
different kinds, whatever the width. -/
structure SpellsWidth (print : Shape → String) : Prop where
  /-- The digits are those of the width. -/
  digits : ∀ s, digitsIn (print s) = s.widthDigits
  /-- The words do not depend on the width. -/
  words : ∀ s, wordsIn (print s) = wordsIn (print (s.withWidth 0))
  /-- The words of two kinds differ. -/
  kinds : ∀ a ∈ Shape.kinds, ∀ b ∈ Shape.kinds, wordsIn (print a) = wordsIn (print b) → a = b

/-- Shapes can be read off their texts: the reader accepts the texts and nothing else, and no two
shapes have the same text. -/
structure Identifies (print : Shape → String) : Prop where
  /-- The texts of shapes are equal exactly if the shapes are. -/
  text_eq_iff : ∀ s t, print s = print t ↔ s = t
  /-- The reader finds a shape exactly if the text is that of the shape. -/
  recover_eq_some_iff : ∀ text s, Shape.recover print text = some s ↔ print s = text

namespace SpellsWidth

variable {print : Shape → String}

/-- The number in the text of a shape completes its kind. -/
theorem withWidth_numberIn (h : SpellsWidth print) (s : Shape) :
    (s.withWidth 0).withWidth (numberIn (print s)) = s := by
  rw [numberIn, h.digits, s.withWidth_ofDigitChars]

/-- No two shapes have the same text: the words tell the kind, and the digits the width. -/
theorem eq_of_print_eq (h : SpellsWidth print) {s t : Shape} (heq : print s = print t) : s = t := by
  -- the kind comes first: the number in the text only completes it
  have hwords : wordsIn (print (s.withWidth 0)) = wordsIn (print (t.withWidth 0)) := by
    rw [← h.words, heq, h.words]
  have hkind : s.withWidth 0 = t.withWidth 0 :=
    h.kinds _ s.withWidth_zero_mem_kinds _ t.withWidth_zero_mem_kinds hwords
  calc
    s = (s.withWidth 0).withWidth (numberIn (print s)) := (h.withWidth_numberIn s).symm
    _ = (t.withWidth 0).withWidth (numberIn (print t)) := by rw [hkind, heq]
    _ = t := h.withWidth_numberIn t

/-- The reader finds the shape whose text it is given. -/
theorem recover_print (h : SpellsWidth print) (s : Shape) :
    Shape.recover print (print s) = some s := by
  have hmem : s ∈ Shape.kinds.map (·.withWidth (numberIn (print s))) :=
    List.mem_map.mpr ⟨_, s.withWidth_zero_mem_kinds, h.withWidth_numberIn s⟩
  cases hfound : Shape.recover print (print s) with
  | none =>
    have hnot := List.find?_eq_none.mp hfound s hmem
    simp at hnot
  | some t =>
    -- whichever shape is found has the text, and no other shape has it
    rw [h.eq_of_print_eq (Shape.print_eq_of_recover hfound)]

/-- Texts that spell the width identify the shape. -/
theorem identifies (h : SpellsWidth print) : Identifies print where
  text_eq_iff _ _ := ⟨h.eq_of_print_eq, congrArg print⟩
  recover_eq_some_iff text s := by
    constructor
    · exact Shape.print_eq_of_recover
    · rintro rfl
      exact h.recover_print s

/-- A width with a zero in front is in no text. -/
example : Shape.recover Shape.text "08-byte float" = none := by decide

/-- Words before and after the text make no difference. -/
theorem wrap (h : SpellsWidth print) (before after : String) (hbefore : digitsIn before = [])
    (hafter : digitsIn after = []) : SpellsWidth fun s => before ++ print s ++ after where
  digits s := by simp [hbefore, hafter, h.digits]
  words s := by simp [h.words s]
  kinds a ha b hb heq := by
    apply h.kinds a ha b hb
    simpa using heq

end SpellsWidth

/-! ## The texts of shapes -/

/-- The words for a shape spell its width. -/
theorem spellsWidth_text : SpellsWidth Shape.text where
  digits s := by cases s <;> simp [Shape.text, Shape.widthDigits, Shape.width] <;> decide
  words s := by cases s <;> simp [Shape.text, Shape.withWidth]
  kinds := by decide

/-- On one line the only digits are those of the kind and of the width. -/
theorem digitsIn_inline_describeWidth (kind : String) (w : Nat) :
    digitsIn (Shape.describeWidth kind w).inline = digitsIn kind ++ decimalDigits w := by
  have hopening : digitsIn " \x7b " = [] := by decide
  have hlabel : digitsIn "width: " = [] := by decide
  have hclosing : digitsIn " \x7d" = [] := by decide
  simp [Shape.describeWidth, Description.inline, Description.inlineFields, hopening, hlabel,
    hclosing]

/-- The structure on one line spells the width. -/
theorem spellsWidth_inline : SpellsWidth fun s => s.describe.inline where
  digits s := by
    cases s with
    | bytes => decide
    | integer w | float w | complex w | uninterpreted w => exact digitsIn_inline_describeWidth _ w
  words s := by
    cases s <;> simp [Shape.describe, Shape.describeWidth, Description.inline,
      Description.inlineFields, Shape.withWidth]
  kinds := by decide

/-- Over several lines, at any depth, the only digits are those of the kind and of the width. -/
theorem digitsIn_indentedAt_describeWidth (level : Nat) (kind : String) (w : Nat) :
    digitsIn ((Shape.describeWidth kind w).indentedAt level) =
      digitsIn kind ++ decimalDigits w := by
  have hopening : digitsIn " \x7b\n" = [] := by decide
  have hlabel : digitsIn "width" = [] := by decide
  have hcolon : digitsIn ": " = [] := by decide
  have hcomma : digitsIn ",\n" = [] := by decide
  have hclosing : digitsIn "\x7d" = [] := by decide
  simp [Shape.describeWidth, Description.indentedAt, Description.indentedFields, hopening, hlabel,
    hcolon, hcomma, hclosing]

/-- Over several lines the digits of a shape are those of its width. -/
theorem digitsIn_indentedAt (level : Nat) (s : Shape) :
    digitsIn (s.describe.indentedAt level) = s.widthDigits := by
  cases s with
  | bytes =>
    rw [Shape.describe, Description.indentedAt]
    decide
  | integer w | float w | complex w | uninterpreted w =>
    exact digitsIn_indentedAt_describeWidth level _ w

/-- Over several lines the words depend on the kind alone. -/
theorem wordsIn_indentedAt (level : Nat) (s : Shape) :
    wordsIn (s.describe.indentedAt level) =
      wordsIn ((s.withWidth 0).describe.indentedAt level) := by
  cases s <;> simp [Shape.describe, Shape.describeWidth, Description.indentedAt,
    Description.indentedFields, Shape.withWidth]

/-- The structure over several lines spells the width. -/
theorem spellsWidth_indented : SpellsWidth fun s => s.describe.indented where
  digits := digitsIn_indentedAt 0
  words := wordsIn_indentedAt 0
  kinds := by decide

/-! ## The texts of refusals -/

/-- On one line the error is words around the structure of the shape. -/
theorem inline_unsupportedShape (s : Shape) :
    (BindError.unsupportedShape s).describe.inline =
      "UnsupportedKeyShape \x7b shape: " ++ s.describe.inline ++ " \x7d" := by
  simp [BindError.describe, Description.inline, Description.inlineFields, ← String.append_assoc]

/-- Over several lines the error is words around the structure of the shape, one level deeper. -/
theorem indented_unsupportedShape (s : Shape) :
    (BindError.unsupportedShape s).describe.indented =
      "UnsupportedKeyShape \x7b\n    shape: " ++ s.describe.indentedAt 1 ++ (",\n" ++ "\x7d") := by
  rw [← String.append_assoc]
  simp [BindError.describe, Description.indented, Description.indentedAt,
    Description.indentedFields, Description.indentation, ← String.append_assoc]

/-- The message of the error spells the width. -/
theorem spellsWidth_unsupportedShape_text :
    SpellsWidth fun s => (BindError.unsupportedShape s).text := by
  have h := spellsWidth_text.wrap "Unsupported key shape: " "" rfl rfl
  simp only [String.append_empty] at h
  exact h

/-- The structure of the error on one line spells the width. -/
theorem spellsWidth_unsupportedShape_inline :
    SpellsWidth fun s => (BindError.unsupportedShape s).describe.inline := by
  simp only [inline_unsupportedShape]
  exact spellsWidth_inline.wrap _ _ rfl rfl

/-- The structure of the error over several lines spells the width. -/
theorem spellsWidth_unsupportedShape_indented :
    SpellsWidth fun s => (BindError.unsupportedShape s).describe.indented := by
  have hshape : SpellsWidth fun s => s.describe.indentedAt 1 :=
    ⟨digitsIn_indentedAt 1, wordsIn_indentedAt 1, by decide⟩
  simp only [indented_unsupportedShape]
  exact hshape.wrap _ _ rfl rfl

/-! ## All texts -/

/-- Each of the six texts identifies the shape: its own text, its structure on one line and over
several, and these three of the error that refuses it. So two key types of one name that cannot be
bound get the same message, and leave the same record in the log, exactly if they have the same
shape. -/
theorem texts_identify_shape :
    Identifies Shape.text ∧
    Identifies (fun s => s.describe.inline) ∧
    Identifies (fun s => s.describe.indented) ∧
    Identifies (fun s => (BindError.unsupportedShape s).text) ∧
    Identifies (fun s => (BindError.unsupportedShape s).describe.inline) ∧
    Identifies (fun s => (BindError.unsupportedShape s).describe.indented) ∧
    (∀ {Key Key' : Type} (t : KeyType Key) (u : KeyType Key') (e e' : BindError),
      t.bind.outcome = .error e → u.bind.outcome = .error e' → t.name = u.name →
        (e.text = e'.text ↔ t.shape = u.shape) ∧
        (t.bind.log = u.bind.log ↔ t.shape = u.shape)) := by
  have hmessage := spellsWidth_unsupportedShape_text.identifies
  refine ⟨spellsWidth_text.identifies, spellsWidth_inline.identifies,
    spellsWidth_indented.identifies, hmessage, spellsWidth_unsupportedShape_inline.identifies,
    spellsWidth_unsupportedShape_indented.identifies, ?_⟩
  intro Key Key' t u e e' ht hu hname
  obtain ⟨rfl, -⟩ := KeyType.hasher_eq_error_iff.mp ht
  obtain ⟨rfl, -⟩ := KeyType.hasher_eq_error_iff.mp hu
  have htext := hmessage.text_eq_iff t.shape u.shape
  refine ⟨htext, ?_⟩
  rw [KeyType.outcome_bind] at ht hu
  rw [KeyType.log_bind, KeyType.log_bind, ht, hu, KeyType.bindRecord_error,
    KeyType.bindRecord_error, hname, ← htext]
  simp

/-- Values that nothing is known of, under one name at every width. -/
def uninterpretedKeys (w : Nat) : KeyType UInt64 where
  name := "Record"
  shape := .uninterpreted w

/-- The widest shape is read off its text, and one digit more is seen in the message and in the
log. -/
theorem texts_identify_width :
    Shape.recover Shape.text "18446744073709551615-byte opaque value" =
      some (.uninterpreted 18446744073709551615) ∧
    (BindError.unsupportedShape (.uninterpreted 3)).text ≠
      (BindError.unsupportedShape (.uninterpreted 33)).text ∧
    (uninterpretedKeys 3).bind.log ≠ (uninterpretedKeys 33).bind.log := by
  obtain ⟨htext, -, -, -, -, -, hrefused⟩ := texts_identify_shape
  obtain ⟨hmessage, hlog⟩ :=
    hrefused (uninterpretedKeys 3) (uninterpretedKeys 33) _ _ rfl rfl rfl
  have hne : (uninterpretedKeys 3).shape ≠ (uninterpretedKeys 33).shape := by decide
  refine ⟨(htext.recover_eq_some_iff _ _).mpr (by decide), ?_, ?_⟩
  · exact fun h => hne (hmessage.mp h)
  · exact fun h => hne (hlog.mp h)

end KeyHash
