import RowMap.Record.Validation
import RowMap.Sql.Write
import RowMap.Store.Program

/-!
# The engine

Creating, saving, updating, destroying and reading records in a store. Every operation is an
`Action`: what can be decided without the store is decided first, then the store is locked for one
statement, or for one transaction in `createAll`. Writes may be rejected by validation, which is no
error.
-/

namespace RowMap

/-- The result of a write that validation may reject. -/
inductive Outcome (α : Type) where
  | committed (value : α)
  | rejected (violations : List Violation)

/-- What an engine knows of its store, and how it maps records. -/
structure Engine where
  dialect : Dialect
  mapper : Mapper

namespace Engine

variable (e : Engine) {t : RecordType}

/-- The set attributes of a record other than its key. -/
def assignments (r : Record t) : List (String × Value) :=
  (r.fields.filter fun f => f.1.name ≠ t.key && !f.2.isNull).map fun f => (f.1.name, f.2)

/-- The insertion of all set attributes. -/
def insertion (r : Record t) : Insertion :=
  ⟨t.table, (r.fields.filter fun f => !f.2.isNull).map fun f => (f.1.name, f.2)⟩

/-- Whether the store is to generate the key: no attribute of its name is set. -/
def wantsKey (r : Record t) : Bool :=
  r.fields.all fun f => f.1.name ≠ t.key || f.2.isNull

/-- The condition that a row has the given key. -/
def hasKey (t : RecordType) (id : Value) : Expression :=
  (Column.named t.key).equals id

/-- The rows of a table that meet a condition in text. -/
def rowsWhere (t : RecordType) (condition : String) (params : List Value) : Dataset :=
  (Dataset.empty.fromTable t.table).filter (.raw condition params)

/-- A statement, or the fault it was not built for. -/
def compiled (statement : Except CompilationFault Statement) : Action Statement :=
  .ofExcept (statement.mapError .compilation)

/-- Inserts a record and sets its key to the generated one if it had none. -/
def insertRecord (r : Record t) : Action (Record t) := do
  let id ← .ask (.insert ((insertion r).compile e.dialect))
  if wantsKey r then .ofExcept ((r.setKey id).mapError .mapping) else return r

/-- Runs a statement and tells how many rows it affected. -/
def affect (statement : Except CompilationFault Statement) : Action Nat := .locked do
  let statement ← compiled statement
  .ask (.execute statement)

/-- The violations of a record unless validation is skipped. -/
def violationsUnless (skip : Bool) (r : Record t) : List Violation :=
  if skip then [] else r.violations

/-- The rows of a dataset. -/
def fetch (d : Dataset) : Action (List AttributeMap) := .locked do
  let statement ← compiled (d.compile e.dialect)
  .ask (.query statement)

/-- The rows of a dataset as records; columns that are no attributes are ignored. -/
def fetchAs (t : RecordType) (d : Dataset) : Action (List (Record t)) := do
  let rows ← e.fetch d
  let mapper : Mapper := ⟨e.mapper.style, false⟩
  .ofExcept ((rows.mapM fun row => mapper.fromMap t row true).mapError .mapping)

/-- The records that meet a raw condition. -/
def query (t : RecordType) (condition : String) (params : List Value) :
    Action (List (Record t)) :=
  e.fetchAs t (rowsWhere t condition params)

/-- The first record that meets a condition. -/
def queryFirst (t : RecordType) (condition : String) (params : List Value) :
    Action (Option (Record t)) := do
  let records ← e.fetchAs t (rowsWhere t condition params).first
  return records.head?

/-- The record with the key, if there is one. -/
def queryByKey (t : RecordType) (id : Value) : Action (Option (Record t)) := do
  let records ← e.fetchAs t ((Dataset.empty.fromTable t.table).filter (hasKey t id)).first
  return records.head?

/-- The number of rows of a dataset. -/
def countRows (d : Dataset) : Action Int64 := do
  let rows ← e.fetch (d.select [.aliased .countAll "count"])
  match (rows.head?.bind (·.get? "count")).bind Value.asInteger? with
  | some n => return n
  | none => throw .noCount

/-- The number of all rows. -/
def countAll (t : RecordType) : Action Int64 :=
  e.countRows (Dataset.empty.fromTable t.table)

/-- The number of rows that meet a raw condition. -/
def count (t : RecordType) (condition : String) (params : List Value) : Action Int64 :=
  e.countRows (rowsWhere t condition params)

/-- A record is validated and inserted. -/
def create (r : Record t) (skip : Bool) : Action (Outcome (Record t)) := do
  match violationsUnless skip r with
  | [] =>
    let created ← .locked (e.insertRecord r)
    return .committed created
  | violations => return .rejected violations

/-- The violations of the first record that has any. -/
def firstViolations (skip : Bool) (rs : List (Record t)) : List Violation :=
  ((rs.map (violationsUnless skip)).find? (!·.isEmpty)).getD []

/-- Creates all records or none of them. -/
def createAll (rs : List (Record t)) (skip : Bool) : Action (Outcome (List (Record t))) := do
  match firstViolations skip rs with
  | [] =>
    let created ← .locked (.transaction (rs.mapM e.insertRecord))
    return .committed created
  | violations => return .rejected violations

/-- Writes the set attributes of a record to the row with the given key. -/
def update (id : Value) (r : Record t) (skip : Bool) : Action (Outcome Nat) := do
  if id.isNull then throw (.argument (.updateWithoutKey t.table))
  match violationsUnless skip r with
  | [] =>
    let rows ← affect (Update.compile ⟨t.table, assignments r, some (hasKey t id)⟩ e.dialect)
    return .committed rows
  | violations => return .rejected violations

/-- Creates a record whose key is not set. Otherwise updates the row of that key, and creates the
record if there is no such row. -/
def save (r : Record t) (skip : Bool) : Action (Outcome (Record t)) := do
  if r.key.isNull then e.create r skip
  else if (assignments r).isEmpty then
    let found ← e.queryByKey t r.key
    if found.isNone then e.create r skip
    else match violationsUnless skip r with
      | [] => return .committed r
      | violations => return .rejected violations
  else
    match ← e.update r.key r skip with
    | .committed 0 => e.create r true
    | .committed _ => return .committed r
    | .rejected violations => return .rejected violations

/-- Updates the rows that meet a condition. The parameters belong to the assignments first, then to
the condition. -/
def updateWhere (t : RecordType) (assignments condition : String) (params : List Value) :
    Action Nat := do
  let expected := Sql.placeholders assignments + Sql.placeholders condition
  if expected ≠ params.length then
    throw (.compilation (.updateParameterCount t.table expected params.length))
  let (forAssignments, forCondition) := params.splitAt (Sql.placeholders assignments)
  let set ← .ofExcept (((Expression.raw assignments forAssignments).render .neutral).mapError
    .compilation)
  let filter ← .ofExcept (((Expression.raw condition forCondition).render .neutral).mapError
    .compilation)
  let whole := Fragment.text ("UPDATE " ++ t.table ++ " SET ") ++ set ++ Fragment.text " WHERE "
    ++ filter
  affect (.ok (whole.finish e.dialect))

/-- The rows that meet a condition are deleted. -/
def destroyWhere (t : RecordType) (condition : Expression) : Action Nat :=
  affect (Deletion.compile ⟨t.table, some condition⟩ e.dialect)

/-- The row with the key is deleted; without a key it is an error. -/
def destroy (t : RecordType) (id : Value) : Action Nat := do
  if id.isNull then throw (.argument (.destroyWithoutKey t.table))
  e.destroyWhere t (hasKey t id)

/-- Runs a text as it is. -/
def execute (sql : String) : Action Nat :=
  affect (.ok ⟨sql, []⟩)

end Engine

end RowMap
