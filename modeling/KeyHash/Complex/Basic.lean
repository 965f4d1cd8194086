/-! # Complex numbers

A complex number is a pair of components of any type, which may again be complex. Two of them are
compared component by component, with whatever comparison the components have. -/

namespace KeyHash

/-- A number with a real and an imaginary component. -/
structure Complex (α : Type) where
  /-- The real component. -/
  re : α
  /-- The imaginary component. -/
  im : α
  deriving DecidableEq

namespace Complex

variable {α : Type}

/-- The complex number of a pair, its real component first. -/
def ofPair (p : α × α) : Complex α := ⟨p.1, p.2⟩

/-- Comparison component by component. -/
instance [BEq α] : BEq (Complex α) := ⟨fun a b => a.re == b.re && a.im == b.im⟩

/-- The default has the default in both components. -/
instance [Inhabited α] : Inhabited (Complex α) := ⟨⟨default, default⟩⟩

/-- Complex numbers are compared by components. -/
theorem beq_def [BEq α] (a b : Complex α) : (a == b) = (a.re == b.re && a.im == b.im) := rfl

end Complex

end KeyHash
