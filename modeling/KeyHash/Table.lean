import KeyHash.Binding

/-! # Bucket tables

A table spreads its keys over a fixed number of buckets: a key belongs to the bucket given by its
hash modulo their number. It binds its hasher once, when it is made. Inside a bucket keys are told
apart by their own comparison, which need not agree with the hash and under which a key need not
even equal itself; a key is added, at the end, only if none that is equal to it is there. -/

namespace KeyHash

/-- Keys in buckets. -/
structure Table (Key : Type) where
  /-- The hash function that places keys. -/
  hasher : Hasher Key
  /-- The keys of every bucket, in the order of their arrival. -/
  buckets : Array (List Key)

namespace Table

variable {Key : Type}

/-- A table without keys. -/
def empty (hasher : Hasher Key) (size : Nat) : Table Key := ⟨hasher, Array.replicate size []⟩

/-- A table without keys for a key type, if that type can be bound. -/
def ofKeyType (t : KeyType Key) (size : Nat) : Except BindError (Table Key) :=
  t.bind.outcome.map fun hasher => empty hasher size

/-- The index of the bucket that a key belongs to. -/
def bucketOf (t : Table Key) (key : Key) : Nat := (t.hasher.hash key).toNat % t.buckets.size

/-- The keys of a bucket. -/
def bucket (t : Table Key) (i : Nat) : List Key := t.buckets.getD i []

/-- The number of keys in every bucket. -/
def lengths (t : Table Key) : List Nat := t.buckets.toList.map List.length

variable [BEq Key]

/-- Whether the key's bucket holds a key that is equal to it. -/
def contains (t : Table Key) (key : Key) : Bool := (t.bucket (t.bucketOf key)).any (· == key)

/-- The table with the key in its bucket. -/
def insert (t : Table Key) (key : Key) : Table Key :=
  if t.contains key then t
  else { t with buckets := t.buckets.modify (t.bucketOf key) (· ++ [key]) }

/-! ### The buckets after an operation -/

omit [BEq Key] in
/-- A new table has as many buckets as were asked for. -/
@[simp] theorem size_empty (h : Hasher Key) (n : Nat) : (empty h n).buckets.size = n := by
  simp [empty]

omit [BEq Key] in
/-- The buckets of a new table are empty. -/
@[simp] theorem bucket_empty (h : Hasher Key) (n i : Nat) : (empty h n).bucket i = [] := by
  simp only [bucket, empty, Array.getD_eq_getD_getElem?, Array.getElem?_replicate]
  split <;> rfl

/-- A table keeps its hasher when a key is put in. -/
@[simp] theorem hasher_insert (t : Table Key) (key : Key) :
    (t.insert key).hasher = t.hasher := by
  unfold insert
  split <;> rfl

/-- A table keeps its number of buckets when a key is put in. -/
@[simp] theorem size_insert (t : Table Key) (key : Key) :
    (t.insert key).buckets.size = t.buckets.size := by
  unfold insert
  split
  · rfl
  · simp

/-- A key keeps its bucket when others come in. -/
@[simp] theorem bucketOf_insert (t : Table Key) (key other : Key) :
    (t.insert key).bucketOf other = t.bucketOf other := by
  simp [bucketOf]

/-- A key that is found is not put in again. -/
theorem insert_of_contains {t : Table Key} {key : Key} (h : t.contains key = true) :
    t.insert key = t := by
  simp [insert, h]

/-- A key that is not found comes at the end of its bucket. -/
theorem bucket_insert_same {t : Table Key} {key : Key} (hsize : 0 < t.buckets.size)
    (h : t.contains key = false) :
    (t.insert key).bucket (t.bucketOf key) = t.bucket (t.bucketOf key) ++ [key] := by
  have hlt : t.bucketOf key < t.buckets.size := Nat.mod_lt _ hsize
  simp [insert, h, bucket, Array.getD_eq_getD_getElem?, hlt, Array.getElem_modify]

/-- The other buckets stay as they are. -/
theorem bucket_insert_other {t : Table Key} {key : Key} {i : Nat} (h : i ≠ t.bucketOf key) :
    (t.insert key).bucket i = t.bucket i := by
  unfold insert
  split
  · rfl
  · simp only [bucket, Array.getD_eq_getD_getElem?, Array.getElem?_modify]
    rw [if_neg (Ne.symm h)]

/-! ## Runs -/

/-- One use of a table. -/
inductive Step (Key : Type) where
  /-- Put a key in. -/
  | insert (key : Key)
  /-- Ask for a key. -/
  | contains (key : Key)

/-- What a step tells. -/
structure Answer where
  /-- The bucket that the key belongs to. -/
  bucket : Nat
  /-- Whether the key was found before the step. -/
  found : Bool
  /-- The number of keys in that bucket after the step. -/
  length : Nat
  deriving DecidableEq

/-- The key of a step. -/
def Step.key : Step Key → Key
  | .insert key | .contains key => key

/-- The table after a step. -/
def after (t : Table Key) : Step Key → Table Key
  | .insert key => t.insert key
  | .contains _ => t

/-- The table after a step, and the answer to the step. -/
def step (t : Table Key) (s : Step Key) : Table Key × Answer :=
  let i := t.bucketOf s.key
  let found := t.contains s.key
  let t := t.after s
  (t, ⟨i, found, (t.bucket i).length⟩)

/-- The table after a sequence of steps. -/
def run (t : Table Key) (steps : List (Step Key)) : Table Key := steps.foldl after t

/-- The answers to a sequence of steps. -/
def answers (t : Table Key) : List (Step Key) → List Answer
  | [] => []
  | s :: steps =>
    let (t, answer) := t.step s
    answer :: answers t steps

end Table

end KeyHash
