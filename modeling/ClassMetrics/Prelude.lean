/-!
The instances the library does its arithmetic with. Powers of natural numbers and integers go
through the core instance, and the natural numbers have a zero of their own, so that each sum of
counts and each power of two in the library elaborates to one term, whatever is imported beside
the library.
-/

namespace ClassMetrics

/-- The zero that sums of natural numbers start from. -/
instance (priority := high) instZeroNat : Zero Nat := ⟨0⟩

end ClassMetrics

-- above the priority of any instance or default instance Mathlib gives powers, in whichever
-- order the two are imported
attribute [instance (20000)] instPowNat
attribute [default_instance 20000] instPowNat
