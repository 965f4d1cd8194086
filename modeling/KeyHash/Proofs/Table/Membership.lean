import KeyHash.Proofs.Key.Standard
import KeyHash.Proofs.Table.Run

/-! # What a bucket table finds

A key is found exactly if a key equal to it was put in that belongs to the same bucket
(`contains_run_iff`). A key that was put in and not kept, because an equal one was there, is found
all the same: equality is transitive, so what stands in for it stands in for everything that it
equals. Where equal keys are the same key this says that nothing is lost and nothing made up. -/

namespace KeyHash.Table

variable {Key : Type} [BEq Key]

/-- No key is found in a new table. -/
@[simp] theorem contains_empty (h : Hasher Key) (n : Nat) (key : Key) :
    (empty h n).contains key = false := by
  rw [contains, bucket_empty, List.any_nil]

variable [PartialEquivBEq Key]

/-- What is found in a bucket is found there under every equal key. -/
theorem contains_of_beq {t : Table Key} {key other : Key} (hfound : t.contains key = true)
    (hbucket : t.bucketOf key = t.bucketOf other) (hequal : (key == other) = true) :
    t.contains other = true := by
  obtain ⟨stored, hstored, hkey⟩ := contains_iff.mp hfound
  exact contains_iff.mpr ⟨stored, hbucket ▸ hstored, BEq.trans hkey hequal⟩

/-- After a key is put in, what was found before is found, and the keys of its bucket that equal
it. -/
theorem contains_insert {t : Table Key} (hsize : 0 < t.buckets.size) (key other : Key) :
    (t.insert key).contains other = true ↔
      t.contains other = true ∨ t.bucketOf key = t.bucketOf other ∧ (key == other) = true := by
  rw [contains_iff, bucketOf_insert, bucket_insert hsize]
  split_ifs with hnew
  · simp only [List.mem_append, List.mem_singleton, or_and_right, exists_or, exists_eq_left,
      contains_iff, hnew.1, true_and]
  · rw [← contains_iff]
    constructor
    · exact .inl
    · rintro (hfound | ⟨hbucket, hequal⟩)
      · exact hfound
      · -- the key was not put in because an equal one was there, and that one equals the other too
        have hkey : t.contains key = true := by simpa [hbucket] using hnew
        exact contains_of_beq hkey hbucket hequal

/-- After a step the keys are found that were found before, and those that equal the key that it put
into their bucket. -/
theorem contains_after {t : Table Key} (hsize : 0 < t.buckets.size) (s : Step Key) (key : Key) :
    (t.after s).contains key = true ↔
      t.contains key = true ∨
        ∃ other, s = .insert other ∧ t.bucketOf other = t.bucketOf key ∧ (other == key) = true := by
  cases s with
  | insert other => simpa [after] using contains_insert hsize other key
  | contains other => simp [after]

/-- A key is found after some steps exactly if it was before, or an equal key of its bucket was put
in. -/
theorem contains_run_iff {t : Table Key} (hsize : 0 < t.buckets.size) (steps : List (Step Key))
    (key : Key) :
    (t.run steps).contains key = true ↔
      t.contains key = true ∨
        ∃ other, .insert other ∈ steps ∧ t.bucketOf other = t.bucketOf key ∧
          (other == key) = true := by
  -- the table changes with each step, the bucket that a key belongs to does not
  induction steps generalizing t with
  | nil => simp
  | cons s steps ih =>
    have hsize' : 0 < (t.after s).buckets.size := by rwa [size_after]
    rw [run_cons, ih hsize', contains_after hsize, or_assoc]
    simp only [bucketOf_after, List.mem_cons, or_and_right, exists_or, eq_comm (a := s)]

/-- A new table finds a key after some steps exactly if an equal key of the same hash modulo the
number of buckets was put in. -/
theorem contains_run_empty_iff (h : Hasher Key) {n : Nat} (hn : 0 < n) (steps : List (Step Key))
    (key : Key) :
    ((empty h n).run steps).contains key = true ↔
      ∃ other, .insert other ∈ steps ∧ (other == key) = true ∧
        (h.hash other).toNat % n = (h.hash key).toNat % n := by
  have hsize : 0 < (empty h n).buckets.size := by rwa [size_empty]
  rw [contains_run_iff hsize, contains_empty]
  simp only [Bool.false_eq_true, false_or, bucketOf_empty, and_comm (b := (_ == _) = true)]

/-- So does each step of a run, with the steps before it. -/
theorem found_answers_iff (h : Hasher Key) {n : Nat} (hn : 0 < n) {steps : List (Step Key)}
    {i : Nat} {s : Step Key} (hs : steps[i]? = some s) :
    ∃ answer, ((empty h n).answers steps)[i]? = some answer ∧
      (answer.found = true ↔
        ∃ key, .insert key ∈ steps.take i ∧ (key == s.key) = true ∧
          (h.hash key).toNat % n = (h.hash s.key).toNat % n) := by
  refine ⟨(((empty h n).run (steps.take i)).step s).2, ?_,
    contains_run_empty_iff h hn (steps.take i) s.key⟩
  rw [getElem?_answers, hs]
  rfl

/-- A step finds its key exactly if an equal key of the same bucket was put in before. If no
component of the key is a zero or not a number, that is if the same key was put in before; and a key
of which some component is not a number is never found. How sequences of bytes are hashed does not
matter. -/
theorem found_iff (sequenceHash : List UInt8 → UInt64) (t : StandardType) {n : Nat} (hn : 0 < n) :
    ∃ (h : Hasher t.Key) (start : Table t.Key),
      (t.keyTypeOver sequenceHash).bind.outcome = .ok h ∧
      ofKeyType (t.keyTypeOver sequenceHash) n = .ok start ∧
      ∀ (steps : List (Step t.Key)) (i : Nat) (s : Step t.Key), steps[i]? = some s →
        ∃ answer, (start.answers steps)[i]? = some answer ∧
          (answer.found = true ↔
            ∃ key, .insert key ∈ steps.take i ∧ (key == s.key) = true ∧
              (h.hash key).toNat % n = (h.hash s.key).toNat % n) ∧
          ((t.isFloating = true →
              ∀ d ∈ t.components s.key, d ≠ .nan ∧ ∀ negative, d ≠ .zero negative) →
            (answer.found = true ↔
              ∃ key, .insert key ∈ steps.take i ∧ t.content key = t.content s.key)) ∧
          (.nan ∈ t.components s.key → answer.found = false) := by
  have hbind := t.outcome_bind sequenceHash
  refine ⟨_, _, hbind, ofKeyType_of_ok hbind n, fun steps i s hs => ?_⟩
  obtain ⟨answer, hanswer, hfound⟩ := found_answers_iff (t.hasherOver sequenceHash) hn hs
  refine ⟨answer, hanswer, hfound, ?_, ?_⟩
  · intro hcomponents
    rw [hfound]
    constructor
    · rintro ⟨key, hkey, hequal, -⟩
      have hsame := (StandardType.beq_iff_eq_of_components hcomponents).mp hequal
      exact ⟨key, hkey, congrArg t.content hsame⟩
    · rintro ⟨key, hkey, hcontent⟩
      obtain rfl : key = s.key := t.content_injective hcontent
      exact ⟨_, hkey, (StandardType.beq_iff_eq_of_components hcomponents).mpr rfl, rfl⟩
  · intro hnan
    rw [Bool.eq_false_iff]
    intro htrue
    obtain ⟨key, -, hequal, -⟩ := hfound.mp htrue
    rw [StandardType.beq_eq_false_of_nan_mem hnan] at hequal
    cases hequal

/-- Where both zeros belong to one bucket they are found for each other. What is not a number is not
found for itself, and a number other than zero is. -/
theorem found_binary32 :
    ∃ start, ofKeyType (StandardType.fixed .binary32).keyType 1 = .ok start ∧
      (∃ answer, (start.answers [.insert (.zero false), .contains (.zero true)])[1]? = some answer ∧
        answer.found = true) ∧
      (∃ answer, (start.answers [.insert ⟨0x7fc00000⟩, .insert ⟨0x7fc00000⟩])[1]? = some answer ∧
        answer.found = false) ∧
      ∃ answer, (start.answers [.insert ⟨0x3fc00000⟩, .contains ⟨0x3fc00000⟩])[1]? = some answer ∧
        answer.found = true := by
  obtain ⟨h, start, -, hstart, hall⟩ :=
    found_iff Xxh3.hash (.fixed .binary32) (n := 1) (by decide)
  refine ⟨start, hstart, ?_, ?_, ?_⟩
  · obtain ⟨answer, hanswer, hfound, -⟩ :=
      hall [.insert (.zero false), .contains (.zero true)] 1 _ rfl
    exact ⟨answer, hanswer, hfound.mpr
      ⟨.zero false, List.mem_singleton_self _, by decide, by rw [Nat.mod_one, Nat.mod_one]⟩⟩
  · obtain ⟨answer, hanswer, -, -, hnan⟩ :=
      hall [.insert ⟨0x7fc00000⟩, .insert ⟨0x7fc00000⟩] 1 _ rfl
    exact ⟨answer, hanswer, hnan (by decide)⟩
  · obtain ⟨answer, hanswer, -, hsame, -⟩ :=
      hall [.insert ⟨0x3fc00000⟩, .contains ⟨0x3fc00000⟩] 1 _ rfl
    have hnumber : ∀ d ∈ (StandardType.fixed .binary32).components ⟨0x3fc00000⟩,
        d ≠ .nan ∧ ∀ negative, d ≠ .zero negative := by decide
    exact ⟨answer, hanswer, (hsame fun _ => hnumber).mpr ⟨_, List.mem_singleton_self _, rfl⟩⟩

end KeyHash.Table
