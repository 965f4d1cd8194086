import KeyHash.Proofs.Key.Equality
import KeyHash.Table
import Mathlib.Data.List.Basic

/-! # Runs of a bucket table

A step leaves every bucket but one alone, and to that one it adds at most its own key, at the end
(`bucket_insert`). So whatever the steps, a table keeps its number of buckets, each key is in the
bucket of its hash, and no two keys of a bucket are equal (`Invariant`). What a run answers to a
step is what the table answers that the steps before have led to (`getElem?_answers`). -/

namespace KeyHash.Table

variable {Key : Type}

/-! ## New tables -/

/-- A table starts empty if the key type can be bound. -/
theorem ofKeyType_of_ok {t : KeyType Key} {h : Hasher Key} (hbind : t.bind.outcome = .ok h)
    (n : Nat) : ofKeyType t n = .ok (empty h n) := by
  rw [ofKeyType, hbind]
  rfl

/-- There is no table for a key type that cannot be bound, and the error is that of binding. -/
theorem ofKeyType_of_error {t : KeyType Key} {e : BindError} (hbind : t.bind.outcome = .error e)
    (n : Nat) : ofKeyType t n = .error e := by
  rw [ofKeyType, hbind]
  rfl

/-- The bucket of a key is its hash modulo the number of buckets. -/
theorem bucketOf_empty (h : Hasher Key) (n : Nat) (key : Key) :
    (empty h n).bucketOf key = (h.hash key).toNat % n := by
  rw [bucketOf, size_empty]
  rfl

variable [BEq Key]

/-! ## One step -/

/-- A key is found exactly if some key stored in its bucket equals it. -/
theorem contains_iff {t : Table Key} {key : Key} :
    t.contains key = true ↔ ∃ stored ∈ t.bucket (t.bucketOf key), (stored == key) = true := by
  rw [contains, List.any_eq_true]

/-- A key is not found exactly if no key stored in its bucket equals it. -/
theorem contains_eq_false_iff {t : Table Key} {key : Key} :
    t.contains key = false ↔
      ∀ stored ∈ t.bucket (t.bucketOf key), (stored == key) = false := by
  rw [← Bool.not_eq_true, contains_iff]
  simp only [not_exists, not_and, Bool.not_eq_true]

/-- A key is put in at the end of its bucket unless it is found there, and nowhere else. -/
theorem bucket_insert {t : Table Key} (hsize : 0 < t.buckets.size) (key : Key) (i : Nat) :
    (t.insert key).bucket i =
      if t.bucketOf key = i ∧ t.contains key = false then t.bucket i ++ [key] else t.bucket i := by
  by_cases hi : t.bucketOf key = i
  · subst hi
    cases hfound : t.contains key with
    | true => rw [insert_of_contains hfound, if_neg (by simp)]
    | false => rw [bucket_insert_same hsize hfound, if_pos ⟨rfl, rfl⟩]
  · rw [bucket_insert_other (Ne.symm hi), if_neg fun h => hi h.1]

/-- A step keeps the number of buckets. -/
@[simp] theorem size_after (t : Table Key) (s : Step Key) :
    (t.after s).buckets.size = t.buckets.size := by
  cases s with
  | insert key => exact size_insert t key
  | contains key => rfl

/-- A step keeps the bucket of every key. -/
@[simp] theorem bucketOf_after (t : Table Key) (s : Step Key) (key : Key) :
    (t.after s).bucketOf key = t.bucketOf key := by
  cases s with
  | insert other => exact bucketOf_insert t other key
  | contains other => rfl

/-! ## Runs -/

/-- Without steps the table stays as it is. -/
@[simp] theorem run_nil (t : Table Key) : t.run [] = t := rfl

/-- The first step is taken first, and the others from the table that it leaves. -/
@[simp] theorem run_cons (t : Table Key) (s : Step Key) (steps : List (Step Key)) :
    t.run (s :: steps) = (t.after s).run steps := rfl

/-- The last step is taken from the table that the others leave. -/
theorem run_concat (t : Table Key) (steps : List (Step Key)) (s : Step Key) :
    t.run (steps ++ [s]) = (t.run steps).after s := by
  rw [run, run, List.foldl_concat]

/-- A run keeps the number of buckets. -/
@[simp] theorem size_run (t : Table Key) (steps : List (Step Key)) :
    (t.run steps).buckets.size = t.buckets.size := by
  induction steps generalizing t with
  | nil => rfl
  | cons s steps ih => rw [run_cons, ih, size_after]

/-- A run keeps the bucket of every key. -/
@[simp] theorem bucketOf_run (t : Table Key) (steps : List (Step Key)) (key : Key) :
    (t.run steps).bucketOf key = t.bucketOf key := by
  induction steps generalizing t with
  | nil => rfl
  | cons s steps ih => rw [run_cons, ih, bucketOf_after]

/-- A step is answered by the table that the steps before it have led to. -/
theorem getElem?_answers (t : Table Key) (steps : List (Step Key)) (i : Nat) :
    (t.answers steps)[i]? = steps[i]?.map fun s => ((t.run (steps.take i)).step s).2 := by
  induction steps generalizing t i with
  | nil => rfl
  | cons s steps ih =>
    cases i with
    | zero => rfl
    | succ i => exact ih (t.after s) i

/-! ## What every step keeps -/

/-- What holds of a table of a given size, whatever has been done with it. -/
structure Invariant (t : Table Key) (size : Nat) : Prop where
  /-- The number of buckets stays. -/
  size_eq : t.buckets.size = size
  /-- A key lies in the bucket that its hash gives. -/
  placed : ∀ i, ∀ key ∈ t.bucket i, t.bucketOf key = i
  /-- No key of a bucket is equal to a later one. -/
  distinct : ∀ i, (t.bucket i).Pairwise fun a b => (a == b) = false

/-- The invariant holds of a new table. -/
theorem invariant_empty (h : Hasher Key) (n : Nat) : (empty h n).Invariant n where
  size_eq := size_empty h n
  placed i key hkey := by
    rw [bucket_empty] at hkey
    cases hkey
  distinct i := by
    rw [bucket_empty]
    exact List.Pairwise.nil

/-- A key that is not found is equal to none of its bucket, so it can join them. -/
theorem Invariant.insert {t : Table Key} {n : Nat} (ht : t.Invariant n) (hn : 0 < n) (key : Key) :
    (t.insert key).Invariant n where
  size_eq := (size_insert t key).trans ht.size_eq
  placed i other hother := by
    rw [bucketOf_insert]
    rw [bucket_insert (ht.size_eq ▸ hn)] at hother
    split_ifs at hother with hnew
    · rcases List.mem_append.mp hother with hold | hold
      · exact ht.placed i other hold
      · rw [List.mem_singleton.mp hold]
        exact hnew.1
    · exact ht.placed i other hother
  distinct i := by
    rw [bucket_insert (ht.size_eq ▸ hn)]
    split_ifs with hnew
    · obtain ⟨rfl, hfound⟩ := hnew
      rw [List.pairwise_append]
      refine ⟨ht.distinct _, List.pairwise_singleton _ _, ?_⟩
      intro stored hstored other hother
      rw [List.mem_singleton.mp hother]
      exact contains_eq_false_iff.mp hfound stored hstored
    · exact ht.distinct i

/-- A step preserves the invariant. -/
theorem Invariant.after {t : Table Key} {n : Nat} (ht : t.Invariant n) (hn : 0 < n)
    (s : Step Key) : (t.after s).Invariant n := by
  cases s with
  | insert key => exact ht.insert hn key
  | contains key => exact ht

/-- A run preserves the invariant. -/
theorem Invariant.run {t : Table Key} {n : Nat} (ht : t.Invariant n) (hn : 0 < n)
    (steps : List (Step Key)) : (t.run steps).Invariant n := by
  induction steps generalizing t with
  | nil => exact ht
  | cons s steps ih => exact ih (ht.after hn s)

/-- What a step says that it found is whether a key of its bucket equals its own. -/
theorem found_step_iff {t : Table Key} {s : Step Key} :
    (t.step s).2.found = true ↔ ∃ stored ∈ t.bucket (t.bucketOf s.key), (stored == s.key) = true :=
  contains_iff

/-- A key that a step puts in comes at the end of its bucket unless the step says that it found
it. -/
theorem bucket_step_insert {t : Table Key} (hsize : 0 < t.buckets.size) (key : Key) :
    (t.step (.insert key)).1.bucket (t.bucketOf key) =
      if (t.step (.insert key)).2.found then t.bucket (t.bucketOf key)
      else t.bucket (t.bucketOf key) ++ [key] := by
  refine (bucket_insert hsize key _).trans ?_
  -- what the step says it found is what its insertion looked for
  change _ = if t.contains key = true then _ else _
  cases t.contains key <;> simp

/-- Whatever has been done with a new table, it has as many buckets as it was made with, its keys
are in the buckets of their hashes, and no two keys of a bucket are equal. A further step finds its
key exactly if its bucket has a key that equals it. It changes no bucket but that one, and this one
only where a key to be put in was not found: it then comes at the end. A key type that cannot be
bound has no table. Comparison need not be reflexive; that it is symmetric and transitive holds of
every standard type. -/
theorem run_invariant [PartialEquivBEq Key] (t : KeyType Key) {n : Nat} (hn : 0 < n) :
    (∀ e, t.bind.outcome = .error e → ofKeyType t n = .error e) ∧
    ∀ h, t.bind.outcome = .ok h → ∃ start, ofKeyType t n = .ok start ∧
      (∀ i, start.bucket i = []) ∧
      ∀ steps : List (Step Key),
        (start.run steps).buckets.size = n ∧
        (∀ i, ∀ key ∈ (start.run steps).bucket i, (h.hash key).toNat % n = i) ∧
        (∀ i, ((start.run steps).bucket i).Pairwise fun a b =>
          (a == b) = false ∧ (b == a) = false) ∧
        (∀ s, ((start.run steps).step s).2.bucket = (h.hash s.key).toNat % n ∧
          (h.hash s.key).toNat % n < n) ∧
        (∀ s, ((start.run steps).step s).2.found = true ↔
          ∃ stored ∈ (start.run steps).bucket ((h.hash s.key).toNat % n),
            (stored == s.key) = true) ∧
        (∀ key, ((start.run steps).step (.contains key)).1 = start.run steps) ∧
        ∀ key,
          (∀ i, i ≠ (h.hash key).toNat % n →
            ((start.run steps).step (.insert key)).1.bucket i = (start.run steps).bucket i) ∧
          ((start.run steps).step (.insert key)).1.bucket ((h.hash key).toNat % n) =
            if ((start.run steps).step (.insert key)).2.found then
              (start.run steps).bucket ((h.hash key).toNat % n)
            else (start.run steps).bucket ((h.hash key).toNat % n) ++ [key] := by
  refine ⟨fun e hbind => ofKeyType_of_error hbind n, fun h hbind => ?_⟩
  refine ⟨empty h n, ofKeyType_of_ok hbind n, bucket_empty h n, fun steps => ?_⟩
  have hinv : ((empty h n).run steps).Invariant n := (invariant_empty h n).run hn steps
  have hindex (key : Key) : ((empty h n).run steps).bucketOf key = (h.hash key).toNat % n := by
    rw [bucketOf_run, bucketOf_empty]
  have hsize : 0 < ((empty h n).run steps).buckets.size := by rwa [hinv.size_eq]
  refine ⟨hinv.size_eq, ?_, ?_, ?_, ?_, fun key => rfl, fun key => ⟨?_, ?_⟩⟩
  · intro i key hkey
    rw [← hindex]
    exact hinv.placed i key hkey
  · intro i
    exact (hinv.distinct i).imp fun hne => ⟨hne, BEq.symm_false hne⟩
  · intro s
    exact ⟨hindex s.key, Nat.mod_lt _ hn⟩
  · intro s
    rw [← hindex]
    exact found_step_iff
  · intro i hi
    rw [← hindex] at hi
    exact bucket_insert_other hi
  · rw [← hindex]
    exact bucket_step_insert hsize key

/-- What is not a number is put into a table of three buckets twice, since it is not found the
second time either; one and a half is found then, and held once. Keys that nothing is known of have
no table. -/
theorem run_invariant_binary64 :
    (∃ (h : Hasher Binary64) (start : Table Binary64),
      FixedType.binary64.keyType.bind.outcome = .ok h ∧
      ofKeyType FixedType.binary64.keyType 3 = .ok start ∧
      let nan : Binary64 := ⟨0x7ff8000000000000⟩
      let number : Binary64 := ⟨0x3ff8000000000000⟩
      let twice := start.run [.insert nan, .insert nan]
      twice.buckets.size = 3 ∧ (∀ i, ∀ key ∈ twice.bucket i, (h.hash key).toNat % 3 = i) ∧
      twice.bucket ((h.hash nan).toNat % 3) = [nan, nan] ∧
      (start.run [.insert number, .insert number]).bucket ((h.hash number).toNat % 3) = [number]) ∧
    ofKeyType ({ name := "Point", shape := .uninterpreted 8 } : KeyType UInt64) 64 =
      .error (.unsupportedShape (.uninterpreted 8)) := by
  constructor
  · obtain ⟨h, hbind⟩ : ∃ h : Hasher Binary64, FixedType.binary64.keyType.bind.outcome = .ok h :=
      ⟨_, rfl⟩
    obtain ⟨start, hstart, hempty, hrun⟩ :=
      (run_invariant (FixedType.binary64.keyType : KeyType Binary64) (n := 3) (by decide)).2 h hbind
    -- a first key is put in, as nothing is there to be found
    have honce (key : Binary64) :
        (start.run [.insert key]).bucket ((h.hash key).toNat % 3) = [key] := by
      obtain ⟨-, -, -, -, hfound, -, hinsert⟩ := hrun []
      have hnew : ¬ ((start.run []).step (.insert key)).2.found = true := by
        rw [hfound, run_nil, hempty]
        rintro ⟨stored, hstored, -⟩
        cases hstored
      refine (hinsert key).2.trans ?_
      rw [if_neg hnew, run_nil, hempty, List.nil_append]
    -- a second time it is put in exactly if it is not equal to itself
    have htwice (key : Binary64) :
        (start.run [.insert key, .insert key]).bucket ((h.hash key).toNat % 3) =
          if key == key then [key] else [key, key] := by
      obtain ⟨-, -, -, -, hfound, -, hinsert⟩ := hrun [.insert key]
      have hself : ((start.run [.insert key]).step (.insert key)).2.found = true ↔
          (key == key) = true := by
        rw [hfound, Step.key, honce]
        simp only [List.mem_singleton, exists_eq_left]
      refine (hinsert key).2.trans ?_
      simp only [hself, honce, List.singleton_append]
    exact ⟨h, start, hbind, hstart, (hrun _).1, (hrun _).2.1, htwice _, htwice _⟩
  · exact (run_invariant _ (by decide)).1 _ rfl

end KeyHash.Table
