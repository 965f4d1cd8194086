import KeyHash.Proofs.Table.Membership
import Mathlib.Algebra.BigOperators.Group.Finset.Basic
import Mathlib.Data.Set.Card

/-! # How many keys a bucket holds

Of the keys that are put into a bucket, those that equal one another are held once, and those that
are not even equal to themselves are held every time (`length_bucket_run`). Which key of a class of
equal ones is held depends on which comes first; how many are held does not depend on any order, nor
on what is asked in between (`lengths_run_eq_of_perm`). -/

namespace KeyHash.Table

variable {Key : Type}

/-! ## The keys that are put in -/

/-- The key that a step puts in, if it is such a step. -/
def Step.inserted? : Step Key → Option Key
  | .insert key => some key
  | .contains _ => none

/-- The keys that are put in, as often as they are. -/
def inserted (steps : List (Step Key)) : List Key := steps.filterMap Step.inserted?

/-- The keys that are put in are those of the steps that put in a key. -/
theorem mem_inserted {steps : List (Step Key)} {key : Key} :
    key ∈ inserted steps ↔ .insert key ∈ steps := by
  rw [inserted, List.mem_filterMap]
  constructor
  · rintro ⟨s, hs, hkey⟩
    cases s with
    | insert other => exact Option.some.inj hkey ▸ hs
    | contains other => cases hkey
  · intro h
    exact ⟨_, h, rfl⟩

/-- A last step adds its key, if it puts in one. -/
theorem inserted_concat (steps : List (Step Key)) (s : Step Key) :
    inserted (steps ++ [s]) = inserted steps ++ s.inserted?.toList := by
  rw [inserted, List.filterMap_append]
  cases s <;> rfl

variable [BEq Key]

/-! ## Classes of equal keys -/

/-- The keys that are equal to a given one. -/
def equalTo (key : Key) : Set Key := { other | (other == key) = true }

/-- The classes that the members of a list belong to, as far as they are equal to themselves. -/
def classes (keys : List Key) : Set (Set Key) :=
  { c | ∃ key ∈ keys, (key == key) = true ∧ c = equalTo key }

/-- Finitely many keys have finitely many classes. -/
theorem finite_classes (keys : List Key) : (classes keys).Finite := by
  apply (keys.finite_toSet.image equalTo).subset
  rintro c ⟨key, hkey, -, rfl⟩
  exact ⟨key, hkey, rfl⟩

/-- How many of some keys there are if equal ones count once. -/
noncomputable def distinctCount (keys : List Key) : Nat :=
  keys.countP (fun key => !(key == key)) + (classes keys).ncard

/-- A list without keys has no different ones. -/
@[simp] theorem distinctCount_nil : distinctCount ([] : List Key) = 0 := by
  simp [distinctCount, classes]

variable [PartialEquivBEq Key]

/-- A key that is equal to itself has the class of another exactly if the two are equal. -/
theorem equalTo_eq_iff {a b : Key} (ha : (a == a) = true) :
    equalTo a = equalTo b ↔ (b == a) = true := by
  constructor
  · intro h
    have hmem : a ∈ equalTo b := h ▸ ha
    exact BEq.symm hmem
  · intro h
    ext other
    constructor
    · exact fun hother => BEq.trans hother (BEq.symm h)
    · exact fun hother => BEq.trans hother h

/-- A key that is equal to one of the others does not count again. -/
theorem distinctCount_concat_of_exists {keys : List Key} {key : Key}
    (h : ∃ other ∈ keys, (other == key) = true) :
    distinctCount (keys ++ [key]) = distinctCount keys := by
  obtain ⟨other, hother, hequal⟩ := h
  have hself : (key == key) = true := BEq.trans (BEq.symm hequal) hequal
  have hclasses : classes (keys ++ [key]) = classes keys := by
    ext c
    constructor
    · rintro ⟨new, hnew, hnew', rfl⟩
      rcases List.mem_append.mp hnew with hold | hlast
      · exact ⟨new, hold, hnew', rfl⟩
      · obtain rfl := List.mem_singleton.mp hlast
        exact ⟨other, hother, BEq.trans hequal (BEq.symm hequal), (equalTo_eq_iff hself).mpr hequal⟩
    · rintro ⟨old, hold, hold', rfl⟩
      exact ⟨old, List.mem_append_left _ hold, hold', rfl⟩
  simp [distinctCount, hclasses, hself]

/-- A key that is equal to none of the others counts, be it a class of its own or equal to
nothing. -/
theorem distinctCount_concat_of_forall {keys : List Key} {key : Key}
    (h : ∀ other ∈ keys, (other == key) = false) :
    distinctCount (keys ++ [key]) = distinctCount keys + 1 := by
  cases hself : key == key with
  | false =>
    -- such a key has no class and is counted by itself
    have hclasses : classes (keys ++ [key]) = classes keys := by
      ext c
      simp [classes, or_and_right, exists_or, hself]
    simp [distinctCount, hclasses, hself]
    omega
  | true =>
    have hclasses : classes (keys ++ [key]) = Insert.insert (equalTo key) (classes keys) := by
      ext c
      simp [classes, or_and_right, exists_or, hself, or_comm]
    have hnew : equalTo key ∉ classes keys := by
      rintro ⟨other, hother, -, hsame⟩
      have hequal := (equalTo_eq_iff hself).mp hsame
      rw [h other hother] at hequal
      cases hequal
    rw [distinctCount, hclasses, Set.ncard_insert_of_notMem hnew (finite_classes keys),
      List.countP_append]
    simp [distinctCount, hself]
    omega

/-! ## The length of a bucket -/

/-- The keys that are put into a bucket of a table of some size. -/
def arrivals (h : Hasher Key) (n i : Nat) (steps : List (Step Key)) : List Key :=
  (inserted steps).filter fun key => (h.hash key).toNat % n = i

omit [BEq Key] [PartialEquivBEq Key] in
/-- A key arrives in a bucket if it is put in and its hash leads there. -/
theorem mem_arrivals {h : Hasher Key} {n i : Nat} {steps : List (Step Key)} {key : Key} :
    key ∈ arrivals h n i steps ↔ .insert key ∈ steps ∧ (h.hash key).toNat % n = i := by
  rw [arrivals, List.mem_filter, mem_inserted, decide_eq_true_eq]

omit [BEq Key] [PartialEquivBEq Key] in
/-- Nothing arrives when a key is asked for. -/
theorem arrivals_concat_contains (h : Hasher Key) (n i : Nat) (steps : List (Step Key))
    (key : Key) :
    arrivals h n i (steps ++ [.contains key]) = arrivals h n i steps := by
  simp [arrivals, inserted_concat, Step.inserted?]

omit [BEq Key] [PartialEquivBEq Key] in
/-- A key that is put in last arrives last, in the bucket of its hash. -/
theorem arrivals_concat_insert (h : Hasher Key) (n i : Nat) (steps : List (Step Key)) (key : Key) :
    arrivals h n i (steps ++ [.insert key]) =
      if (h.hash key).toNat % n = i then arrivals h n i steps ++ [key]
      else arrivals h n i steps := by
  by_cases hi : (h.hash key).toNat % n = i <;> simp [arrivals, inserted_concat, Step.inserted?, hi]

/-- A key is found exactly if an equal one was put into its bucket. -/
theorem contains_run_iff_exists_arrival (h : Hasher Key) {n : Nat} (hn : 0 < n)
    (steps : List (Step Key)) (key : Key) :
    ((empty h n).run steps).contains key = true ↔
      ∃ other ∈ arrivals h n ((h.hash key).toNat % n) steps, (other == key) = true := by
  rw [contains_run_empty_iff h hn]
  refine exists_congr fun other => ?_
  rw [mem_arrivals, and_right_comm, and_assoc]

/-- A bucket holds as many keys as are put into it if equal ones count once. -/
theorem length_bucket_run (h : Hasher Key) {n : Nat} (hn : 0 < n) (steps : List (Step Key))
    (i : Nat) :
    (((empty h n).run steps).bucket i).length = distinctCount (arrivals h n i steps) := by
  -- from the end, as whether a key counts depends on the steps before it and not on those after
  induction steps using List.reverseRecOn with
  | nil => simp [arrivals, inserted]
  | append_singleton steps s ih =>
    rw [run_concat]
    cases s with
    | contains key =>
      rw [arrivals_concat_contains]
      exact ih
    | insert key =>
      have hsize : 0 < ((empty h n).run steps).buckets.size := by rwa [size_run, size_empty]
      rw [arrivals_concat_insert, after, bucket_insert hsize, bucketOf_run, bucketOf_empty]
      by_cases hi : (h.hash key).toNat % n = i
      · subst hi
        have hfound := contains_run_iff_exists_arrival h hn steps key
        cases hcontains : ((empty h n).run steps).contains key with
        | true =>
          rw [if_neg (by simp), if_pos rfl, ih,
            distinctCount_concat_of_exists (hfound.mp hcontains)]
        | false =>
          have hnone : ∀ other ∈ arrivals h n ((h.hash key).toNat % n) steps,
              (other == key) = false := by
            simpa [hcontains] using hfound
          rw [if_pos ⟨rfl, rfl⟩, if_pos rfl, List.length_append, ih, List.length_singleton,
            distinctCount_concat_of_forall hnone]
      · rw [if_neg fun hnew => hi hnew.1, if_neg hi, ih]

omit [BEq Key] [PartialEquivBEq Key] in
/-- The lengths are listed in the order of the buckets. -/
theorem lengths_eq_map_bucket (t : Table Key) :
    t.lengths = (List.range t.buckets.size).map fun i => (t.bucket i).length := by
  apply List.ext_getElem
  · simp [lengths]
  · intro i hi hi'
    have hlt : i < t.buckets.size := by simpa [lengths] using hi
    simp [lengths, bucket, hlt]

/-- After a run the length of a bucket is the number of different keys that arrived in it. -/
theorem lengths_run (h : Hasher Key) {n : Nat} (hn : 0 < n) (steps : List (Step Key)) :
    ((empty h n).run steps).lengths =
      (List.range n).map fun i => distinctCount (arrivals h n i steps) := by
  rw [lengths_eq_map_bucket, size_run, size_empty]
  simp only [length_bucket_run h hn]

/-! ## Other orders, and keys that equal themselves only -/

omit [PartialEquivBEq Key] in
/-- How many keys there are does not depend on their order. -/
theorem distinctCount_eq_of_perm {keys others : List Key} (h : keys.Perm others) :
    distinctCount keys = distinctCount others := by
  have hclasses : classes keys = classes others := by
    ext c
    simp only [classes, h.mem_iff]
  rw [distinctCount, distinctCount, h.countP_eq, hclasses]

/-- Runs that put in the same keys, in whatever order, leave buckets of the same lengths. -/
theorem lengths_run_eq_of_perm (h : Hasher Key) {n : Nat} (hn : 0 < n)
    {steps others : List (Step Key)} (hperm : (inserted steps).Perm (inserted others)) :
    ((empty h n).run steps).lengths = ((empty h n).run others).lengths := by
  rw [lengths_run h hn, lengths_run h hn]
  apply List.map_congr_left
  intro i _
  exact distinctCount_eq_of_perm (hperm.filter _)

omit [PartialEquivBEq Key] in
/-- If only the same keys are equal, every key is alone in its class. -/
theorem equalTo_of_lawful [LawfulBEq Key] (key : Key) : equalTo key = {key} := by
  ext other
  exact beq_iff_eq

omit [PartialEquivBEq Key] in
/-- Where equal keys are the same, those of a list count as a set. -/
theorem distinctCount_of_lawful [LawfulBEq Key] (keys : List Key) :
    distinctCount keys = { key | key ∈ keys }.ncard := by
  have hclasses : classes keys = (fun key => {key}) '' { key | key ∈ keys } := by
    ext c
    constructor
    · rintro ⟨key, hkey, -, rfl⟩
      exact ⟨key, hkey, (equalTo_of_lawful key).symm⟩
    · rintro ⟨key, hkey, rfl⟩
      exact ⟨key, hkey, BEq.rfl, (equalTo_of_lawful key).symm⟩
  rw [distinctCount, hclasses, Set.ncard_image_of_injective _ Set.singleton_injective]
  simp

omit [PartialEquivBEq Key] in
/-- Where equal keys are the same, a table holds the keys that were put in, each once. -/
theorem sum_lengths_run [LawfulBEq Key] (h : Hasher Key) {n : Nat} (hn : 0 < n)
    (steps : List (Step Key)) :
    ((empty h n).run steps).lengths.sum = { key | .insert key ∈ steps }.ncard := by
  classical
  let keys : Finset Key := (inserted steps).toFinset
  have hkeys : { key | .insert key ∈ steps } = (keys : Set Key) := by
    ext key
    simp [keys, mem_inserted]
  have hbucket (i : Nat) :
      distinctCount (arrivals h n i steps) =
        (keys.filter fun key => (h.hash key).toNat % n = i).card := by
    rw [distinctCount_of_lawful, ← Set.ncard_coe_finset]
    congr 1
    ext key
    simp [keys, mem_arrivals, mem_inserted]
  -- every key is counted in one bucket only, that of its hash
  have hindex (key : Key) : (h.hash key).toNat % n ∈ Finset.range n :=
    Finset.mem_range.mpr (Nat.mod_lt _ hn)
  rw [lengths_run h hn, hkeys, Set.ncard_coe_finset,
    Finset.card_eq_sum_card_fiberwise fun key _ => hindex key]
  simp only [hbucket]
  rfl

/-- The length of each bucket is the number of keys put into it that are not equal to themselves,
which are those with a component that is not a number, and the number of classes of equal keys among
the others. Neither the order of the steps nor what is asked in between changes the lengths. Where
keys are not made of floating-point numbers, they add up to the number of different keys put in. How
sequences of bytes are hashed does not matter. -/
theorem lengths_run_eq (sequenceHash : List UInt8 → UInt64) (t : StandardType) {n : Nat}
    (hn : 0 < n) :
    ∃ (h : Hasher t.Key) (start : Table t.Key),
      (t.keyTypeOver sequenceHash).bind.outcome = .ok h ∧
      ofKeyType (t.keyTypeOver sequenceHash) n = .ok start ∧
      (∀ steps : List (Step t.Key),
        (start.run steps).lengths = (List.range n).map fun i =>
          (arrivals h n i steps).countP (fun key => !(key == key)) +
            (classes (arrivals h n i steps)).ncard) ∧
      (∀ key : t.Key, (key == key) = false ↔ .nan ∈ t.components key) ∧
      (∀ steps others : List (Step t.Key), steps.Perm others →
        (start.run steps).lengths = (start.run others).lengths) ∧
      (∀ steps others : List (Step t.Key), others.Sublist steps →
        inserted others = inserted steps → (start.run others).lengths = (start.run steps).lengths) ∧
      (t.isFloating = false → ∀ steps : List (Step t.Key),
        (start.run steps).lengths.sum = { key | .insert key ∈ steps }.ncard) := by
  have hbind := t.outcome_bind sequenceHash
  refine ⟨_, _, hbind, ofKeyType_of_ok hbind n, lengths_run _ hn, ?_, ?_, ?_, ?_⟩
  · intro key
    rw [← Bool.not_eq_true, StandardType.beq_self_iff, not_not]
  · intro steps others hperm
    exact lengths_run_eq_of_perm _ hn (hperm.filterMap _)
  · intro steps others _ hinserted
    exact lengths_run_eq_of_perm _ hn (.of_eq hinserted)
  · intro ht steps
    have hlawful : LawfulBEq t.Key := StandardType.lawfulBEq ht
    exact sum_lengths_run _ hn steps

/-- Two keys, one of them put in twice, in two orders and with a question left out. -/
theorem lengths_run_uint32 :
    ∃ start, ofKeyType (StandardType.fixed .uint32).keyType 3 = .ok start ∧
      (start.run [.insert 7, .contains 9, .insert 7, .insert 8]).lengths =
        (start.run [.insert 7, .contains 9, .insert 8, .insert 7]).lengths ∧
      (start.run [.insert 7, .insert 7, .insert 8]).lengths =
        (start.run [.insert 7, .contains 9, .insert 7, .insert 8]).lengths ∧
      (start.run [.insert 7, .insert 7, .insert 8]).lengths.sum =
        { key : UInt32 | .insert key ∈ [Step.insert 7, .insert 7, .insert 8] }.ncard := by
  obtain ⟨h, start, -, hstart, -, -, hperm, hsublist, hsum⟩ :=
    lengths_run_eq Xxh3.hash (.fixed .uint32) (n := 3) (by decide)
  refine ⟨start, hstart, hperm _ _ ?_, hsublist _ _ ?_ rfl, hsum rfl _⟩
  · exact .cons _ (.cons _ (.swap _ _ _))
  · exact .cons_cons _ (.cons _ (.refl _))

end KeyHash.Table
