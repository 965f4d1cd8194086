import KeyHash.Complex.Text
import KeyHash.Proofs.Float.Text

/-! # Reading nested complex numbers

Plain text puts no brackets around a component, and its plus stands there whatever the sign, so
where the real component ends is not seen at once. It is known from the depth: if the parts of a
number have no plus of their own, then every number of a depth has the same number of pluses, one
less than a power of two, and the one in the middle is its own (`Reads.complex`, `Reads.nested`). So
numbers of any depth can be read back, and their texts are the same only if their parts are
(`nested_text_eq_iff`). -/

namespace KeyHash

/-! ## Splitting at a plus -/

/-- What stands before and after the plus that has `n` others before it. -/
def splitAtPlus : Nat → List Char → Option (List Char × List Char)
  | _, [] => none
  | n, c :: cs =>
    if c = '+' ∧ n = 0 then some ([], cs)
    else (splitAtPlus (if c = '+' then n - 1 else n) cs).map fun p => (c :: p.1, p.2)

/-- A plus in front is one of those before the one that is looked for. -/
theorem count_plus_cons_eq_iff {n : Nat} {c : Char} {xs : List Char} (h : ¬ (c = '+' ∧ n = 0)) :
    (c :: xs).count '+' = n ↔ xs.count '+' = if c = '+' then n - 1 else n := by
  by_cases hc : c = '+'
  · have hpos : n ≠ 0 := fun hn => h ⟨hc, hn⟩
    rw [if_pos hc, hc, List.count_cons_self]
    omega
  · rw [if_neg hc, List.count_cons_of_ne hc]

/-- A text is split at the plus in its middle if the count is that of the pluses before it. -/
theorem splitAtPlus_append (xs ys : List Char) :
    splitAtPlus (xs.count '+') (xs ++ '+' :: ys) = some (xs, ys) := by
  induction xs with
  | nil => rfl
  | cons x xs ih =>
    have hlater : ¬ (x = '+' ∧ (x :: xs).count '+' = 0) := by
      rintro ⟨rfl, hcount⟩
      rw [List.count_cons_self] at hcount
      cases hcount
    rw [List.cons_append, splitAtPlus, if_neg hlater, ← (count_plus_cons_eq_iff hlater).mp rfl, ih,
      Option.map_some]

/-- What a text is split into makes up the text, and has as many pluses before the middle as asked
for. -/
theorem eq_append_of_splitAtPlus_eq_some {n : Nat} {cs xs ys : List Char}
    (h : splitAtPlus n cs = some (xs, ys)) : cs = xs ++ '+' :: ys ∧ xs.count '+' = n := by
  induction cs generalizing n xs with
  | nil => cases h
  | cons c cs ih =>
    rw [splitAtPlus] at h
    by_cases hfirst : c = '+' ∧ n = 0
    · rw [if_pos hfirst] at h
      obtain ⟨rfl, rfl⟩ := hfirst
      cases h
      exact ⟨rfl, rfl⟩
    · rw [if_neg hfirst, Option.map_eq_some_iff] at h
      obtain ⟨⟨xs', ys'⟩, hsplit, heq⟩ := h
      cases heq
      obtain ⟨rfl, hcount⟩ := ih hsplit
      exact ⟨rfl, (count_plus_cons_eq_iff hfirst).mpr hcount⟩

/-- Characters are split into what is before a plus and what is after it, with the given number of
pluses before it; where there are too few, nothing is found. -/
theorem splitAtPlus_eq_some_iff {n : Nat} {cs xs ys : List Char} :
    splitAtPlus n cs = some (xs, ys) ↔ cs = xs ++ '+' :: ys ∧ xs.count '+' = n := by
  constructor
  · exact eq_append_of_splitAtPlus_eq_some
  · rintro ⟨rfl, rfl⟩
    exact splitAtPlus_append xs ys

namespace Complex

variable {α β : Type}

/-- The texts of the components in the text of a complex number, where the real one has `n` pluses
of its own. -/
def parts? (n : Nat) (text : String) : Option (String × String) :=
  match splitAtPlus n text.toList with
  | none => none
  | some (re, rest) =>
    if rest.getLast? = some 'i' then some (String.ofList re, String.ofList rest.dropLast) else none

/-- The components are found exactly if the text is put together from them. -/
theorem parts?_eq_some_iff {n : Nat} {text re im : String} :
    parts? n text = some (re, im) ↔
      text = re ++ "+" ++ im ++ "i" ∧ re.toList.count '+' = n := by
  have hchars : text = re ++ "+" ++ im ++ "i" ↔
      text.toList = re.toList ++ '+' :: (im.toList ++ ['i']) := by
    rw [← String.toList_inj]
    simp
  rw [hchars, ← splitAtPlus_eq_some_iff]
  unfold parts?
  cases hsplit : splitAtPlus n text.toList with
  | none => simp
  | some halves =>
    obtain ⟨re', rest⟩ := halves
    rw [Option.ite_none_right_eq_some, List.getLast?_eq_some_iff]
    constructor
    · rintro ⟨⟨im', rfl⟩, heq⟩
      cases heq
      simp
    · intro heq
      cases heq
      simp

/-- The complex number that a text stands for, where `readPart` reads the components and the real
one has `n` pluses of its own. -/
def read (n : Nat) (readPart : String → Option β) (text : String) : Option (Complex β) := do
  let (re, im) ← parts? n text
  return ⟨← readPart re, ← readPart im⟩

/-- A complex number is read exactly if its components are. -/
theorem read_eq_some_iff {n : Nat} {readPart : String → Option β} {text : String} {z : Complex β} :
    read n readPart text = some z ↔
      ∃ re im, (text = re ++ "+" ++ im ++ "i" ∧ re.toList.count '+' = n) ∧
        readPart re = some z.re ∧ readPart im = some z.im := by
  simp only [read, Option.bind_eq_bind, Option.bind_eq_some_iff, Prod.exists, parts?_eq_some_iff,
    Option.pure_def, Option.some.injEq]
  constructor
  · rintro ⟨re, im, htext, x, hre, y, him, rfl⟩
    exact ⟨re, im, htext, hre, him⟩
  · rintro ⟨re, im, htext, hre, him⟩
    exact ⟨re, im, htext, z.re, hre, z.im, him, rfl⟩

/-- A function on both components. -/
def map (f : α → β) (z : Complex α) : Complex β := ⟨f z.re, f z.im⟩

end Complex

/-! ## Nesting -/

variable {α β : Type}

/-- Complex numbers whose components are complex numbers, to a depth. -/
def Nested (α : Type) : Nat → Type
  | 0 => α
  | d + 1 => Complex (Nested α d)

namespace Nested

/-- A function on all parts. -/
def map (f : α → β) : (d : Nat) → Nested α d → Nested β d
  | 0 => f
  | d + 1 => Complex.map (map f d)

/-- Nothing changes when no part does. -/
theorem map_id (d : Nat) (z : Nested α d) : map id d z = z := by
  induction d with
  | zero => rfl
  | succ d ih =>
    show Complex.mk (map id d (Complex.re z)) (map id d (Complex.im z)) = z
    rw [ih, ih]
    rfl

/-- The nested complex number that a text stands for, where `readPart` reads the parts. -/
def read (readPart : String → Option β) : (d : Nat) → String → Option (Nested β d)
  | 0 => readPart
  | d + 1 => Complex.read (2 ^ d - 1) (read readPart d)

/-- Nested complex numbers are printed as the complex numbers that they are. -/
instance printable [Printable α] : (d : Nat) → Printable (Nested α d)
  | 0 => inferInstanceAs (Printable α)
  | d + 1 =>
    have := printable d
    inferInstanceAs (Printable (Complex (Nested α d)))

end Nested

/-! ## Readers -/

variable [Printable α]

/-- The texts of values have no plus, and are the same exactly if the values stand for the same. -/
structure IsLegible (value : α → β) : Prop where
  /-- There is no plus. -/
  plus_notMem : ∀ x : α, '+' ∉ (Printable.text x).toList
  /-- What a value stands for is all that its text tells. -/
  text_eq_iff : ∀ x y : α, Printable.text x = Printable.text y ↔ value x = value y

/-- A reader of texts that all have `n` pluses: it accepts the texts of values and nothing else, and
tells what the values stand for, on which the texts depend. -/
structure Reads (n : Nat) (value : α → β) (read : String → Option β) : Prop where
  /-- Every text has `n` pluses. -/
  count_plus : ∀ x : α, (Printable.text x).toList.count '+' = n
  /-- The text depends on what a value stands for only. -/
  text_congr : ∀ x y : α, value x = value y → Printable.text x = Printable.text y
  /-- The reader accepts the texts of values. -/
  read_eq_some_iff : ∀ text v, read text = some v ↔ ∃ x : α, Printable.text x = text ∧ value x = v

/-- What has legible texts can be read. -/
theorem IsLegible.exists_reads {value : α → β} (h : IsLegible value) :
    ∃ read, Reads 0 value read := by
  classical
  -- it does not matter which of the values of a text is chosen: they all stand for the same
  let read (text : String) : Option β :=
    if hx : ∃ x : α, Printable.text x = text then some (value hx.choose) else none
  refine ⟨read, fun x => List.count_eq_zero.mpr (h.plus_notMem x),
    fun x y => (h.text_eq_iff x y).mpr, ?_⟩
  intro text v
  unfold read
  constructor
  · intro hread
    rw [Option.dite_none_right_eq_some] at hread
    obtain ⟨hx, hv⟩ := hread
    exact ⟨_, hx.choose_spec, Option.some.inj hv⟩
  · rintro ⟨x, rfl, rfl⟩
    have hx : ∃ y : α, Printable.text y = Printable.text x := ⟨x, rfl⟩
    rw [dif_pos hx, (h.text_eq_iff _ _).mp hx.choose_spec]

namespace Reads

variable {n : Nat} {value : α → β} {read : String → Option β}

/-- Texts that can be read are the same exactly if the values stand for the same. -/
theorem text_eq_iff (h : Reads n value read) (x y : α) :
    Printable.text x = Printable.text y ↔ value x = value y := by
  constructor
  · intro heq
    have hx := (h.read_eq_some_iff _ _).mpr ⟨x, rfl, rfl⟩
    have hy := (h.read_eq_some_iff _ _).mpr ⟨y, rfl, rfl⟩
    rw [heq, hy] at hx
    exact (Option.some.inj hx).symm
  · exact h.text_congr x y

/-- Complex numbers have one plus more than both their components. -/
theorem count_plus_complex (h : Reads n value read) (z : Complex α) :
    (Printable.text z).toList.count '+' = 2 * n + 1 := by
  have htext : Printable.text z = Printable.text z.re ++ "+" ++ Printable.text z.im ++ "i" := rfl
  have hplus : "+".toList.count '+' = 1 := by decide
  have hend : "i".toList.count '+' = 0 := by decide
  simp only [htext, String.toList_append, List.count_append, h.count_plus, hplus, hend]
  omega

/-- Complex numbers can be read if their components can. -/
theorem complex (h : Reads n value read) :
    Reads (2 * n + 1) (Complex.map value) (Complex.read n read) := by
  refine ⟨h.count_plus_complex, ?_, ?_⟩
  · intro z w heq
    obtain ⟨hre, him⟩ := Complex.mk.inj heq
    show Complex.text z = Complex.text w
    rw [Complex.text, Complex.text, h.text_congr _ _ hre, h.text_congr _ _ him]
  · intro text v
    rw [Complex.read_eq_some_iff]
    constructor
    · rintro ⟨re, im, ⟨rfl, -⟩, hre, him⟩
      obtain ⟨x, rfl, hx⟩ := (h.read_eq_some_iff _ _).mp hre
      obtain ⟨y, rfl, hy⟩ := (h.read_eq_some_iff _ _).mp him
      refine ⟨⟨x, y⟩, rfl, ?_⟩
      rw [Complex.map, hx, hy]
    · rintro ⟨z, rfl, rfl⟩
      exact ⟨_, _, ⟨rfl, h.count_plus z.re⟩, (h.read_eq_some_iff _ _).mpr ⟨z.re, rfl, rfl⟩,
        (h.read_eq_some_iff _ _).mpr ⟨z.im, rfl, rfl⟩⟩

end Reads

/-! ## Reading nested numbers -/

/-- Nested complex numbers have one plus less than parts, and can be read if these can. -/
theorem Reads.nested {value : α → β} {readPart : String → Option β} (h : Reads 0 value readPart)
    (d : Nat) : Reads (2 ^ d - 1) (Nested.map value d) (Nested.read readPart d) := by
  induction d with
  | zero => exact h
  | succ d ih =>
    -- a level more has twice the pluses and its own
    have hpluses : 2 * (2 ^ d - 1) + 1 = 2 ^ (d + 1) - 1 := by
      have hpos := Nat.two_pow_pos d
      rw [Nat.pow_succ]
      omega
    rw [← hpluses]
    exact ih.complex

/-- One reader of the parts serves complex numbers of every depth. -/
theorem IsLegible.exists_reads_nested {value : α → β} (h : IsLegible value) :
    ∃ readPart, ∀ d, Reads (2 ^ d - 1) (Nested.map value d) (Nested.read readPart d) := by
  obtain ⟨readPart, hreads⟩ := h.exists_reads
  exact ⟨readPart, hreads.nested⟩

/-- The texts of all parts are found if they have no plus. -/
theorem Nested.read_some_text (hplus : ∀ x : α, '+' ∉ (Printable.text x).toList) (d : Nat)
    (z : Nested α d) : read some d (Printable.text z) = some (map Printable.text d z) := by
  -- the number of pluses does not depend on what the parts are read as, here their texts
  have hlegible : IsLegible (Printable.text : α → String) := ⟨hplus, fun _ _ => Iff.rfl⟩
  obtain ⟨readPart, hreads⟩ := hlegible.exists_reads_nested
  induction d with
  | zero => rfl
  | succ d ih =>
    exact Complex.read_eq_some_iff.mpr
      ⟨_, _, ⟨rfl, (hreads d).count_plus (Complex.re z)⟩, ih (Complex.re z), ih (Complex.im z)⟩

/-! ## Numbers as parts -/

/-- Signed integers are told by their texts. -/
theorem isLegible_int64 : IsLegible (id : Int64 → Int64) where
  plus_notMem x := plus_notMem_integerText x.toInt
  text_eq_iff _ _ := integerText_injective.eq_iff.trans Int64.toInt_inj

/-- Bytes are told by their texts. -/
theorem isLegible_uint8 : IsLegible (id : UInt8 → UInt8) where
  plus_notMem x := plus_notMem_integerText x.toNat
  text_eq_iff _ _ := integerText_injective.eq_iff.trans (by simp [UInt8.toNat_inj])

/-- The texts of floating-point numbers tell what the patterns stand for, which is everything but the
sign and the payload of what is not a number. -/
theorem isLegible_binary32 : IsLegible Binary32.datum where
  plus_notMem x := FloatFormat.plus_notMem_text _ x.datum
  text_eq_iff _ _ :=
    ⟨FloatFormat.text_inj (FloatFormat.holds_datum _ _) (FloatFormat.holds_datum _ _),
      congrArg (FloatFormat.binary32.text plainLayout none)⟩

/-- The texts of the wider format tell as much of its patterns. -/
theorem isLegible_binary64 : IsLegible Binary64.datum where
  plus_notMem x := FloatFormat.plus_notMem_text _ x.datum
  text_eq_iff _ _ :=
    ⟨FloatFormat.text_inj (FloatFormat.holds_datum _ _) (FloatFormat.holds_datum _ _),
      congrArg (FloatFormat.binary64.text plainLayout none)⟩

/-- Complex numbers of any depth can be read back from their texts. Where the texts of the parts
have no plus, those of all parts are found, and where they also tell the parts apart, numbers have
the same text only if they are the same, and a reader accepts the texts of numbers and nothing else.
Parts may have the same text where they stand for the same, and then it is what all parts stand for
that is read. So it is with integers, and with floating-point numbers, which stand for the same only
if they are the same or neither is a number. -/
theorem nested_text_eq_iff :
    (∀ {α : Type} [Printable α], (∀ x : α, '+' ∉ (Printable.text x).toList) →
      (∀ (d : Nat) (z : Nested α d),
        Nested.read some d (Printable.text z) = some (Nested.map Printable.text d z)) ∧
      ((Printable.text : α → String).Injective →
        (∀ (d : Nat) (z w : Nested α d), Printable.text z = Printable.text w ↔ z = w) ∧
        ∃ readPart : String → Option α, ∀ (d : Nat) (text : String) (z : Nested α d),
          Nested.read readPart d text = some z ↔ Printable.text z = text)) ∧
    (∀ {α β : Type} [Printable α] (value : α → β), IsLegible value →
      (∀ (d : Nat) (z w : Nested α d),
        Printable.text z = Printable.text w ↔ Nested.map value d z = Nested.map value d w) ∧
      ∃ readPart : String → Option β, ∀ (d : Nat) (text : String) (v : Nested β d),
        Nested.read readPart d text = some v ↔
          ∃ z : Nested α d, Printable.text z = text ∧ Nested.map value d z = v) ∧
    IsLegible (id : Int64 → Int64) ∧ IsLegible (id : UInt8 → UInt8) ∧
    IsLegible Binary32.datum ∧ IsLegible Binary64.datum ∧
    (∀ x y : Binary32, x.datum = y.datum ↔ x = y ∨ (x.datum = .nan ∧ y.datum = .nan)) ∧
    (∀ x y : Binary64, x.datum = y.datum ↔ x = y ∨ (x.datum = .nan ∧ y.datum = .nan)) := by
  refine ⟨?_, ?_, isLegible_int64, isLegible_uint8, isLegible_binary32, isLegible_binary64,
    fun _ _ => Binary32.datum_eq_iff, fun _ _ => Binary64.datum_eq_iff⟩
  · intro α _ hplus
    refine ⟨Nested.read_some_text hplus, fun hinj => ?_⟩
    have hlegible : IsLegible (id : α → α) := ⟨hplus, fun _ _ => hinj.eq_iff⟩
    obtain ⟨readPart, hreads⟩ := hlegible.exists_reads_nested
    refine ⟨fun d z w => ?_, readPart, fun d text z => ?_⟩
    · rw [(hreads d).text_eq_iff, Nested.map_id, Nested.map_id]
    · simp only [(hreads d).read_eq_some_iff, Nested.map_id, exists_eq_right]
  · intro α β _ value hlegible
    obtain ⟨readPart, hreads⟩ := hlegible.exists_reads_nested
    exact ⟨fun d => (hreads d).text_eq_iff, readPart, fun d => (hreads d).read_eq_some_iff⟩

/-- A complex number of complex numbers, one imaginary component negative, is the only one of its
text. Complex numbers that differ in the payload of what is not a number have one text. -/
theorem nested_text_int64 :
    (∀ x : Int64, '+' ∉ (Printable.text x).toList) ∧
    (Printable.text : Int64 → String).Injective ∧
    Printable.text (⟨⟨1, -2⟩, ⟨3, 4⟩⟩ : Complex (Complex Int64)) = "1+-2i+3+4ii" ∧
    Nested.read some 2 "1+-2i+3+4ii" = some (⟨⟨"1", "-2"⟩, ⟨"3", "4"⟩⟩ : Complex (Complex String)) ∧
    (∀ z : Complex (Complex Int64), Printable.text z = "1+-2i+3+4ii" → z = ⟨⟨1, -2⟩, ⟨3, 4⟩⟩) ∧
    IsLegible Binary64.datum ∧
    Printable.text (⟨⟨0x7ff8000000000000⟩, ⟨0⟩⟩ : Complex Binary64) =
      Printable.text (⟨⟨0xfff8000000000001⟩, ⟨0⟩⟩ : Complex Binary64) := by
  have hinj : (Printable.text : Int64 → String).Injective :=
    fun x y => (isLegible_int64.text_eq_iff x y).mp
  obtain ⟨htexts, hnested⟩ := nested_text_eq_iff.1 isLegible_int64.plus_notMem
  have htext : Printable.text (⟨⟨1, -2⟩, ⟨3, 4⟩⟩ : Complex (Complex Int64)) = "1+-2i+3+4ii" := by
    decide
  refine ⟨isLegible_int64.plus_notMem, hinj, htext, ?_, ?_, isLegible_binary64, ?_⟩
  · exact htext ▸ htexts 2 (⟨⟨1, -2⟩, ⟨3, 4⟩⟩ : Complex (Complex Int64))
  · intro z hz
    exact ((hnested hinj).1 2 z _).mp (hz.trans htext.symm)
  · have hdatum : Binary64.datum ⟨0x7ff8000000000000⟩ = Binary64.datum ⟨0xfff8000000000001⟩ := by
      decide
    exact ((nested_text_eq_iff.2.1 Binary64.datum isLegible_binary64).1 1 _ _).mpr
      (congrArg (Complex.mk · _) hdatum)

end KeyHash
