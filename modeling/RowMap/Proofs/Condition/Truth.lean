import RowMap.Query.Basic

/-!
# Three truth values

A condition is true, false or unknown for a row. Negation leaves unknown as it is, and a connective
gives the value that is certain whatever the unknown ones are. A connective combines any number of
values; which of them were combined before does not matter (`Connective.truth_append`).
-/

namespace RowMap

/-- The truth values of the language, in which null makes a predicate unknown. -/
inductive Truth where
  | no
  | unknown
  | yes
  deriving DecidableEq

namespace Truth

/-- What is unknown stays so. -/
def not : Truth → Truth
  | .no => .yes
  | .unknown => .unknown
  | .yes => .no

/-- False if one of the two is, else unknown if one of them is. -/
def and : Truth → Truth → Truth
  | .yes, b => b
  | .no, _ | _, .no => .no
  | _, _ => .unknown

/-- True if one of the two is, else unknown if one of them is. -/
def or : Truth → Truth → Truth
  | .no, b => b
  | .yes, _ | _, .yes => .yes
  | _, _ => .unknown

end Truth

namespace Connective

/-- The truth of two conditions with the connective between them. -/
def combine : Connective → Truth → Truth → Truth
  | .conjunction => Truth.and
  | .disjunction => Truth.or

/-- The value that changes no other. -/
def unit : Connective → Truth
  | .conjunction => .yes
  | .disjunction => .no

/-- Any number of values, combined. -/
def truth (k : Connective) (values : List Truth) : Truth :=
  values.foldr k.combine k.unit

variable (k : Connective)

@[simp] theorem combine_unit (a : Truth) : k.combine a k.unit = a := by
  cases k <;> cases a <;> rfl

@[simp] theorem unit_combine (a : Truth) : k.combine k.unit a = a := by
  cases k <;> cases a <;> rfl

/-- It does not matter how three conditions are grouped. -/
theorem combine_assoc (a b c : Truth) :
    k.combine (k.combine a b) c = k.combine a (k.combine b c) := by
  cases k <;> cases a <;> cases b <;> cases c <;> rfl

@[simp] theorem truth_singleton (a : Truth) : k.truth [a] = a :=
  k.combine_unit a

/-- Two lists of conditions are combined like two conditions. -/
theorem truth_append (as bs : List Truth) :
    k.truth (as ++ bs) = k.combine (k.truth as) (k.truth bs) := by
  induction as with
  | nil => exact (k.unit_combine _).symm
  | cons a as ih =>
    change k.combine a (k.truth (as ++ bs)) = _
    rw [ih, ← k.combine_assoc]
    rfl

end Connective

end RowMap
