/-!
# Integers of 64 bits

Which whole numbers fit 64 bits, with a sign or without.
-/

namespace RowMap

/-- The number fits 64 bits with a sign. -/
def FitsSigned (n : Int) : Prop :=
  -0x8000000000000000 ≤ n ∧ n < 0x8000000000000000

/-- The number fits 64 bits with or without a sign. -/
def FitsWord (n : Int) : Prop :=
  -0x8000000000000000 ≤ n ∧ n < 0x10000000000000000

instance (n : Int) : Decidable (FitsSigned n) :=
  inferInstanceAs (Decidable (_ ∧ _))

instance (n : Int) : Decidable (FitsWord n) :=
  inferInstanceAs (Decidable (_ ∧ _))

/-- The number as a 64-bit integer, if it fits. -/
def int64? (n : Int) : Option Int64 :=
  if FitsSigned n then some (Int64.ofInt n) else none

end RowMap
