/-! # Little-endian byte sequences

A byte sequence spells a number in base 256, least significant byte first. `toNat` reads a sequence
of any length, `ofNat` writes the bytes of a number at a given width, and the two undo each other
(`toNat_ofNat`, `ofNat_toNat`). `word` reads a sequence straight into a machine word and agrees with
`toNat` modulo `2 ^ 64` (`word_eq_ofNat_toNat`). -/

namespace KeyHash.LittleEndian

/-- The number that a byte sequence spells. -/
def toNat : List UInt8 → Nat
  | [] => 0
  | b :: bs => b.toNat + 256 * toNat bs

/-- The `n` least significant bytes of a number. -/
def ofNat : Nat → Nat → List UInt8
  | 0, _ => []
  | n + 1, x => UInt8.ofNat x :: ofNat n (x / 256)

/-- The `n` bytes of an integer in two's complement. -/
def ofInt (n : Nat) (x : Int) : List UInt8 := ofNat n (x % (1 <<< (8 * n) : Nat)).toNat

/-- The word that a byte sequence spells, modulo `2 ^ 64`. -/
def word : List UInt8 → UInt64
  | [] => 0
  | b :: bs => b.toUInt64 + 256 * word bs

/-- A number is written with as many bytes as are asked for. -/
@[simp] theorem length_ofNat (n x : Nat) : (ofNat n x).length = n := by
  induction n generalizing x with
  | zero => rfl
  | succ n ih => simp [ofNat, ih]

/-- Writing a number and reading it back keeps it up to the width. -/
theorem toNat_ofNat (n x : Nat) : toNat (ofNat n x) = x % 1 <<< (8 * n) := by
  induction n generalizing x with
  | zero => simp [ofNat, toNat, Nat.mod_one]
  | succ n ih =>
    -- one more byte splits off the remainder modulo 256
    have hshift : 1 <<< (8 * (n + 1)) = 256 * 1 <<< (8 * n) := by
      rw [Nat.mul_succ, Nat.shiftLeft_eq, Nat.shiftLeft_eq, Nat.pow_add, Nat.one_mul, Nat.one_mul,
        Nat.mul_comm]
    rw [ofNat, toNat, ih, hshift, Nat.mod_mul, UInt8.toNat_ofNat']

/-- Reading a sequence and writing it back at its own width gives the sequence. -/
theorem ofNat_toNat (bs : List UInt8) : ofNat bs.length (toNat bs) = bs := by
  induction bs with
  | nil => rfl
  | cons b bs ih =>
    have hlt := b.toNat_lt
    have hbyte : UInt8.ofNat (b.toNat + 256 * toNat bs) = b := by
      apply UInt8.toNat_inj.mp
      simp only [UInt8.toNat_ofNat']
      omega
    have hrest : (b.toNat + 256 * toNat bs) / 256 = toNat bs := by omega
    simp only [List.length_cons, toNat, ofNat, hbyte, hrest, ih]

/-- Reading into a word is reading the number modulo `2 ^ 64`. -/
theorem word_eq_ofNat_toNat (bs : List UInt8) : word bs = UInt64.ofNat (toNat bs) := by
  induction bs with
  | nil => rfl
  | cons b bs ih =>
    rw [word, toNat, ih, UInt64.ofNat_add, UInt64.ofNat_mul]
    congr 1
    apply UInt64.toNat_inj.mp
    have hlt := b.toNat_lt
    simp only [UInt8.toNat_toUInt64, UInt64.toNat_ofNat']
    omega

/-- The 64-bit word at offset `i` of a sequence. -/
def qwordAt (bs : List UInt8) (i : Nat) : UInt64 := word ((bs.drop i).take 8)

/-- The 32-bit word at offset `i` of a sequence. -/
def dwordAt (bs : List UInt8) (i : Nat) : UInt64 := word ((bs.drop i).take 4)

/-- The first `n` 64-bit words of a sequence. -/
def qwords : Nat → List UInt8 → List UInt64
  | 0, _ => []
  | n + 1, bs => word (bs.take 8) :: qwords n (bs.drop 8)

/-- The word with its bytes in the opposite order. -/
def swapBytes (x : UInt64) : UInt64 := word (ofNat 8 x.toNat).reverse

end KeyHash.LittleEndian
