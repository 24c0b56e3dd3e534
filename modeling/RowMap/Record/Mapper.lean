import RowMap.Record.Basic

/-!
# Records and attribute maps

An attribute map holds values under keys in camel or underscore style. `Mapper.toMap` gives the set
attributes of a record; `Mapper.fromMap` builds a record from a map, each key being normalised
on its own. If several keys mean one attribute, the one in the declared spelling wins, and otherwise
the last one in the order of keys.
-/

namespace RowMap

abbrev AttributeMap := KeyMap Value

/-- How keys are written, and whether unknown keys are refused. -/
structure Mapper where
  style : KeyStyle
  strict : Bool
  deriving DecidableEq

namespace Mapper

def default : Mapper :=
  ⟨.camel, false⟩

/-- The set attributes of a record under keys in the style of the mapper. -/
def toMap (m : Mapper) {t : RecordType} (r : Record t) : AttributeMap :=
  KeyMap.ofList ((r.fields.filter fun f => !f.2.isNull).map fun f => (m.style.apply f.1.name, f.2))

/-- The value found for an attribute so far, and whether its key had the declared spelling. -/
structure Candidate where
  preferred : Bool
  value : Value

/-- The candidate for an attribute after one more key that means it. -/
def Candidate.choose (earlier : Option Candidate) (later : Candidate) : Candidate :=
  match earlier with
  | some earlier => if earlier.preferred && !later.preferred then earlier else later
  | none => later

/-- Takes one entry of a map into the candidates, which are kept by attribute name. -/
def resolveEntry (m : Mapper) (t : RecordType) (declared : KeyStyle)
    (candidates : KeyMap Candidate) (entry : String × Value) :
    Except MappingFault (KeyMap Candidate) :=
  match t.attribute? (KeyStyle.toUnderscore entry.1) with
  | some a =>
    let candidate : Candidate := ⟨entry.1 = declared.apply a.name, entry.2⟩
    .ok (candidates.insert a.name (.choose (candidates.get? a.name) candidate))
  | none =>
    if m.strict then .error (.unknownAttribute entry.1 t.table) else .ok candidates

/-- Assigns a candidate to its attribute. -/
def assignCandidate {t : RecordType} (r : Record t) (c : String × Candidate) :
    Except MappingFault (Record t) :=
  match t.find? c.1 with
  | some i => (r.assign i c.2.value).mapError (.attribute c.1)
  | none => .ok r

/-- The record that a map makes of a default one, the declared spelling of a key being its
underscore or its camel style. Keys are looked up in their order, then values are coerced in the
order of attribute names. -/
def fromMapOn (m : Mapper) {t : RecordType} (default : Record t) (map : AttributeMap)
    (underscoreKeys : Bool) : Except MappingFault (Record t) := do
  let declared : KeyStyle := if underscoreKeys then .underscore else .camel
  let candidates ← map.entries.foldlM (m.resolveEntry t declared) KeyMap.empty
  candidates.entries.foldlM assignCandidate default

/-- The record of a map, in which nothing else is set. -/
def fromMap (m : Mapper) (t : RecordType) (map : AttributeMap) (underscoreKeys : Bool) :
    Except MappingFault (Record t) :=
  m.fromMapOn (Record.unset t) map underscoreKeys

end Mapper

namespace Document

/-- The fields of an object with their values. -/
def fieldsOf : (fields : List (String × Json)) → Json.CanonicalFields fields →
    List (String × Document)
  | [], _ => []
  | (key, value) :: rest, h => (key, ⟨value, h.1⟩) :: fieldsOf rest h.2

/-- The attribute map of a JSON object. -/
def toAttributes (d : Document) : Except MappingFault AttributeMap :=
  match d with
  | ⟨.object fields, h⟩ =>
    .ok (KeyMap.ofList ((fieldsOf fields h.2).map fun f => (f.1, Value.ofDocument f.2)))
  | other => .error (.notAnObject other)

end Document

end RowMap
