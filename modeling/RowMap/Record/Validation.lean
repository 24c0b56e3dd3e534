import RowMap.Pattern.Reader
import RowMap.Record.Basic

/-!
# Validation

The rules of a record type are evaluated in order against the values of a record; each rule that
fails gives one violation. A rule on an attribute that is not set fails only if the attribute is
required. All other checks but that of a range look at the displayed value.
-/

namespace RowMap

/-- How a check fails. -/
inductive Failure where
  | absent
  | blank
  | badLength (min max length : Nat)
  | noMatch (pattern : String)
  /-- The pattern itself cannot be used. -/
  | malformedPattern (pattern : String)
  | outOfRange (min max value : Binary64)
  | notNumeric
  | notListed (allowed : List String)
  deriving DecidableEq

namespace Failure

/-- What is told about a failure. -/
def message : Failure → String
  | .absent => "must be present"
  | .blank => "must not be blank"
  | .badLength min max length =>
    "length must be between " ++ Decimal.text min ++ " and " ++ Decimal.text max ++ ", was "
      ++ Decimal.text length
  | .noMatch pattern => "must match " ++ pattern
  | .malformedPattern pattern => "pattern " ++ pattern ++ " cannot be compiled: malformed pattern"
  | .outOfRange min max value =>
    "must be between " ++ min.text ++ " and " ++ max.text ++ ", was " ++ value.text
  | .notNumeric => "must be numeric"
  | .notListed allowed => "must be one of " ++ ", ".intercalate allowed

end Failure

/-- A field that fails a rule. -/
structure Violation where
  field : String
  rule : String
  failure : Failure
  deriving DecidableEq

/-- The violation in one line. -/
def Violation.text (v : Violation) : String :=
  v.field ++ " (" ++ v.rule ++ "): " ++ v.failure.message

/-- The failure of a display that is too short or too long. -/
def lengthFailure? (min max : Nat) (shown : String) : Option Failure :=
  let length := shown.length
  if length < min ∨ max < length then some (.badLength min max length) else none

/-- The failure of a display that the pattern does not match. -/
def patternFailure? (pattern : String) (shown : String) : Option Failure :=
  match Pattern.read? pattern with
  | some p => if p.isMatch shown then none else some (.noMatch pattern)
  | none => some (.malformedPattern pattern)

/-- The failure of a number outside the range, or of a value that is no number. -/
def rangeFailure? (min max : Binary64) (value : Value) : Option Failure :=
  match value.asReal? with
  | some n => if min.le n && n.le max then none else some (.outOfRange min max n)
  | none => some .notNumeric

/-- The failure of a value that is missing or blank. -/
def presenceFailure? : Value → Option Failure
  | .null => some .absent
  | .text s => if Text.trim s.toList = [] then some .blank else none
  | _ => none

/-- How a check fails on a value, if it does. -/
def Check.failure? (check : Check) (value : Value) : Option Failure :=
  match check with
  | .required => presenceFailure? value
  | other =>
    if value.isNull then none
    else match other with
      | .required => none
      | .length min max => lengthFailure? min max value.display
      | .pattern expected => patternFailure? expected value.display
      | .range min max => rangeFailure? min max value
      | .oneOf allowed => if value.display ∈ allowed then none else some (.notListed allowed)

namespace Record

variable {t : RecordType}

/-- The violation of a rule, if it fails. -/
def violation? (r : Record t) (rule : Rule) : Option Violation :=
  (rule.check.failure? (r.value rule.field)).map (⟨rule.field, rule.check.identifier, ·⟩)

/-- The violations of all rules that fail, in the order of the rules. -/
def violations (r : Record t) : List Violation :=
  t.rules.filterMap r.violation?

end Record

end RowMap
