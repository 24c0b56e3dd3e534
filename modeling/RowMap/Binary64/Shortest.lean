import RowMap.Binary64.Basic
import RowMap.Decimal.Basic

/-!
# Shortest decimals

The fewest digits that read back as a given double. The reals that round to the double form an
interval between the midpoints to its two neighbours, its ends included when the rank is even. A
decimal grid of step `10 ^ e` is tried from the coarsest down; on each, only the two neighbours of
the value matter. The first grid that meets the interval decides, the nearer neighbour wins, and an
exact tie is left to the caller.
-/

namespace RowMap.Binary64

/-- Which of two equally near decimals is chosen. -/
inductive Tie where
  | up
  | toEven

/-- How many half units make one. -/
def halfUnitsPerOne : Nat := 2 * unitsPerOne

/-- The midpoint to the next smaller magnitude, in half units. -/
def lowerEnd (rank : Nat) : Nat :=
  units (rank - 1) + units rank

/-- The midpoint to the next larger magnitude, in half units. -/
def upperEnd (rank : Nat) : Nat :=
  units rank + units (rank + 1)

/-- Whether `coefficient * 10 ^ exponent` rounds to the magnitude of the given rank. -/
def roundsTo (rank : Nat) (d : Decimal) : Bool :=
  let point := d.coefficient * (Nat.pow 10 d.exponent.toNat * halfUnitsPerOne)
  let lower := lowerEnd rank * Nat.pow 10 (-d.exponent).toNat
  let upper := upperEnd rank * Nat.pow 10 (-d.exponent).toNat
  (lower < point && point < upper) || (rank % 2 = 0 && (point = lower || point = upper))

/-- The decimal of exponent `exponent` that is nearest to the magnitude, if it rounds to it. -/
def nearestOnGrid? (tie : Tie) (rank : Nat) (exponent : Int) : Option Decimal :=
  let step := Nat.pow 10 exponent.toNat * halfUnitsPerOne
  let value := 2 * units rank * Nat.pow 10 (-exponent).toNat
  let below : Decimal := ⟨value / step, exponent⟩
  let above : Decimal := ⟨value / step + 1, exponent⟩
  let excess := value % step
  let shortfall := step - excess
  match roundsTo rank below, roundsTo rank above with
  | false, false => none
  | true, false => some below
  | false, true => some above
  | true, true =>
    if excess < shortfall then some below
    else if shortfall < excess then some above
    else match tie with
      | .up => some above
      | .toEven => some (if below.coefficient % 2 = 0 then below else above)

/-- The shortest decimal that rounds to the magnitude of the given rank. No grid above `10 ^ 309`
is needed, and one of step `10 ^ (-324)` meets every interval. -/
def shortest (tie : Tie) (rank : Nat) : Decimal :=
  ((List.range 634).findSome? fun i : Nat => nearestOnGrid? tie rank (309 - i)).getD ⟨0, 0⟩

end RowMap.Binary64
