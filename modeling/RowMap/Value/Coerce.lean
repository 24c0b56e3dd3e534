import RowMap.Value.Basic

/-!
# Coercion

The kind of an attribute says which values it may hold besides null. `Value.coerce` turns a value
into one of the given kind, or says why it cannot. Null is left alone by every kind.
-/

namespace RowMap

/-- What an attribute is declared to hold. -/
inductive Kind where
  | integer
  | real
  | text
  | boolean
  | timestamp
  | extended
  deriving DecidableEq

def Kind.name : Kind → String
  | .integer => "integer"
  | .real => "real"
  | .text => "text"
  | .boolean => "boolean"
  | .timestamp => "timestamp"
  | .extended => "extended attributes"

/-- Why a value cannot become one of a kind. -/
inductive CoercionError where
  /-- Values of this type never become values of this kind. -/
  | incompatible (value : Value) (kind : Kind)
  /-- Some values of this type do, but not this one. -/
  | invalid (kind : Kind)
  | malformedJson

def CoercionError.message : CoercionError → String
  | .incompatible value kind =>
    "cannot coerce " ++ value.typeName ++ " value '" ++ value.display ++ "' to " ++ kind.name
  | .invalid kind => "value is not a valid " ++ kind.name
  | .malformedJson => "malformed JSON text"

/-! ## Single conversions -/

/-- A whole number inside the range of 64 bits. The bounds are made doubles to compare with them, by
which the upper one becomes `2 ^ 63`, so it is excluded. -/
def Binary64.toInt64? (r : Binary64) : Option Int64 :=
  if r.fract.equals (zero false) && (ofInt Int64.minValue.toInt).le r &&
      r.lt (ofInt Int64.maxValue.toInt) then
    some r.toInt64
  else none

namespace Value

/-- An integer literal, or else the integer that a decimal's nearest double is. -/
def readInteger? (s : String) : Option Int64 :=
  let cs := Text.trim s.toList
  match (Decimal.signed? cs).bind int64? with
  | some i => some i
  | none => (Binary64.read? cs).bind Binary64.toInt64?

def readReal? (s : String) : Option Binary64 :=
  Binary64.read? (Text.trim s.toList)

/-- The words and digits for the two truth values. -/
def readBoolean? (s : String) : Option Bool :=
  let cs := Text.trim s.toList
  if cs = "true".toList ∨ cs = "1".toList then some true
  else if cs = "false".toList ∨ cs = "0".toList then some false
  else none

/-! ## Coercion -/

/-- A converted value, or the error that this one is not valid for the kind. -/
def orInvalid (kind : Kind) (value? : Option Value) : Except CoercionError Value :=
  match value? with
  | some value => .ok value
  | none => .error (.invalid kind)

/-- The value as one of the given kind. -/
def coerce (value : Value) (kind : Kind) : Except CoercionError Value :=
  match kind, value with
  | _, .null => .ok .null
  | .integer, .integer i => .ok (.integer i)
  | .integer, .real r => orInvalid .integer (r.toInt64?.map .integer)
  | .integer, .boolean b => .ok (.integer (if b then 1 else 0))
  | .integer, .text s => orInvalid .integer ((readInteger? s).map .integer)
  | .real, .real r => .ok (.real r)
  | .real, .integer i => .ok (.real (Binary64.ofInt i.toInt))
  | .real, .text s => orInvalid .real ((readReal? s).map .real)
  | .text, .text s => .ok (.text s)
  | .text, .integer i => .ok (.text (integerText i))
  | .text, .real r => .ok (.text r.text)
  | .text, .boolean b => .ok (.text (booleanText b))
  | .text, .timestamp t => .ok (.text t.text)
  | .boolean, .boolean b => .ok (.boolean b)
  | .boolean, .integer i =>
    if i = 0 then .ok (.boolean false)
    else if i = 1 then .ok (.boolean true)
    else .error (.incompatible (.integer i) .boolean)
  | .boolean, .text s => orInvalid .boolean ((readBoolean? s).map .boolean)
  | .timestamp, .timestamp t => .ok (.timestamp t)
  | .timestamp, .text s => orInvalid .timestamp ((Timestamp.read? s.toList).map .timestamp)
  | .extended, .json d =>
    if d.isObject then .ok (.json d) else .error (.incompatible (.json d) .extended)
  | .extended, .text s =>
    match Document.read? s with
    | none => .error .malformedJson
    | some d => orInvalid .extended (if d.isObject then some (.json d) else none)
  | kind, other => .error (.incompatible other kind)

end Value

end RowMap
