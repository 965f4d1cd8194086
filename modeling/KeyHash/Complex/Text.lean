import KeyHash.Complex.Basic
import KeyHash.Printable

/-! # Complex numbers in words

A complex number is printed through its components, whatever they are, and can be a component in
turn, so complex numbers nest. Plain text has no brackets: the imaginary component follows a plus,
with its own sign if it has one, and an `i` ends the number. -/

namespace KeyHash

namespace Complex

variable {α : Type} [Printable α]

/-- A complex number as plain text, the sign of its imaginary component after the plus. -/
def text (z : Complex α) : String := Printable.text z.re ++ "+" ++ Printable.text z.im ++ "i"

/-- The structure of a complex number. -/
def describe (places : Option Nat) (z : Complex α) : Description :=
  .record "Complex" [("re", Printable.describe places z.re), ("im", Printable.describe places z.im)]

/-- Complex numbers can be printed if their components can. -/
instance : Printable (Complex α) := ⟨text, describe⟩

end Complex

end KeyHash
