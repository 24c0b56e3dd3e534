import RowMap.Error
import RowMap.Record.KeyStyle

/-!
# Records

A record type declares a table, its key and its attributes in order, each with the kind of value it
holds. A record of the type has one slot for each attribute. Names may repeat, and a name then means
the first attribute that has it.
-/

namespace RowMap

/-- A name and the kind of its values. -/
structure Attribute where
  name : String
  kind : Kind
  deriving DecidableEq

/-- The declaration of an attribute as text. -/
def Attribute.text (a : Attribute) : String :=
  a.name ++ "::<" ++ a.kind.name ++ ">"

/-- A condition on the value of an attribute. -/
inductive Check where
  | required
  /-- Bounds on the number of characters, inclusive. -/
  | length (min max : Nat)
  | pattern (pattern : String)
  | range (min max : Binary64)
  | oneOf (allowed : List String)
  deriving DecidableEq

/-- The name of a check in a violation. -/
def Check.identifier : Check → String
  | .required => "required"
  | .length .. => "length"
  | .pattern _ => "pattern"
  | .range .. => "range"
  | .oneOf _ => "one_of"

/-- A check of one field. -/
structure Rule where
  field : String
  check : Check
  deriving DecidableEq

/-- What the records of a table look like. -/
structure RecordType where
  table : String
  /-- The name of the attribute that identifies a row. -/
  key : String
  attributes : List Attribute
  rules : List Rule

namespace RecordType

/-- The position of the first attribute of a name. -/
def find? (t : RecordType) (name : String) : Option (Fin t.attributes.length) :=
  t.attributes.findFinIdx? (·.name = name)

/-- The first attribute of a name. -/
def attribute? (t : RecordType) (name : String) : Option Attribute :=
  (t.find? name).map t.attributes.get

end RecordType

/-- One value for each attribute of the type. -/
structure Record (t : RecordType) where
  slots : Vector Value t.attributes.length

namespace Record

variable {t : RecordType}

/-- The record in which nothing is set. -/
def unset (t : RecordType) : Record t :=
  ⟨Vector.replicate _ .null⟩

/-- The value of a slot. -/
def get (r : Record t) (i : Fin t.attributes.length) : Value :=
  r.slots[i]

/-- The record with another value in a slot. -/
def set (r : Record t) (i : Fin t.attributes.length) (value : Value) : Record t :=
  ⟨r.slots.set i value⟩

/-- The attributes with the values in their slots, in order of declaration. -/
def fields (r : Record t) : List (Attribute × Value) :=
  t.attributes.zip r.slots.toList

/-- The value of the first attribute of a name; null if there is none. -/
def value (r : Record t) (name : String) : Value :=
  match t.find? name with
  | some i => r.get i
  | none => .null

/-- The value of the attribute that identifies the row. -/
def key (r : Record t) : Value :=
  r.value t.key

/-- Coerces a value to the kind of an attribute and puts it into the slot. -/
def assign (r : Record t) (i : Fin t.attributes.length) (value : Value) :
    Except CoercionError (Record t) :=
  (value.coerce (t.attributes.get i).kind).map (r.set i)

/-- The record with another key, coerced to the kind of the key attribute. -/
def setKey (r : Record t) (id : Value) : Except MappingFault (Record t) :=
  match t.find? t.key with
  | some i => (r.assign i id).mapError .coercion
  | none => .error (.noKeyAttribute t.table t.key)

/-- Sets the key of a record where the record is. What is written before an error stays written. -/
def rekey (id : Value) : ExceptT MappingFault (StateM (Record t)) Unit := do
  match t.find? t.key with
  | some i =>
    let key ← MonadExcept.ofExcept
      ((id.coerce (t.attributes.get i).kind).mapError MappingFault.coercion)
    modify fun r => r.set i key
  | none => throw (.noKeyAttribute t.table t.key)

end Record

end RowMap
