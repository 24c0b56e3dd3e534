import RowMap.Query.Render

/-!
# Statements that write

Insertions, updates and deletions of one table. Values are always bound, except that an update
writes out null. The conditions of an update or a deletion are combined with AND.
-/

namespace RowMap

open Fragment (text joined bound)

/-- The insertion of one row. -/
structure Insertion where
  table : String
  values : List (String × Value)

namespace Insertion

/-- One more column with its value. -/
def value (i : Insertion) (column : String) (value : Value) : Insertion :=
  { i with values := i.values ++ [(column, value)] }

/-- An insertion; without columns a row of defaults. -/
def render (i : Insertion) : Fragment :=
  if i.values.isEmpty then text ("INSERT INTO " ++ i.table ++ " DEFAULT VALUES")
  else
    text ("INSERT INTO " ++ i.table ++ " (" ++ ", ".intercalate (i.values.map Prod.fst)
      ++ ") VALUES ")
      ++ (joined ", " (i.values.map fun v => bound v.2)).parenthesized

/-- The insertion as a statement; it cannot fail. -/
def compile (i : Insertion) (dialect : Dialect) : Statement :=
  i.render.finish dialect

end Insertion

/-- The conditions so far and one more. -/
def alsoIf (condition : Option Expression) (further : Expression) : Option Expression :=
  match condition with
  | some condition => some (condition.and further)
  | none => some further

/-- The condition behind its keyword, if there is one. -/
def whereClause (dialect : Dialect) (condition : Option Expression) :
    Except CompilationFault Fragment :=
  match condition with
  | some condition => (condition.render dialect).map (clause "WHERE")
  | none => .ok Fragment.empty

/-- New values for the rows of a table that meet a condition. -/
structure Update where
  table : String
  assignments : List (String × Value)
  condition : Option Expression

namespace Update

/-- One more assignment. -/
def set (u : Update) (column : String) (value : Value) : Update :=
  { u with assignments := u.assignments ++ [(column, value)] }

/-- One more condition, which has to hold as well. -/
def filter (u : Update) (condition : Expression) : Update :=
  { u with condition := alsoIf u.condition condition }

/-- A column and its new value. -/
def assignment (a : String × Value) : Fragment :=
  text (a.1 ++ " = ") ++ Fragment.literal a.2

/-- An update needs an assignment. -/
def render (u : Update) (dialect : Dialect) : Except CompilationFault Fragment :=
  if u.assignments.isEmpty then .error (.noAssignments u.table)
  else do
    let condition ← whereClause dialect u.condition
    return text ("UPDATE " ++ u.table ++ " SET ") ++ joined ", " (u.assignments.map assignment)
      ++ condition

/-- The update as a statement. -/
def compile (u : Update) (dialect : Dialect) : Except CompilationFault Statement :=
  (u.render dialect).map (·.finish dialect)

end Update

/-- The removal of the rows of a table that meet a condition. -/
structure Deletion where
  table : String
  condition : Option Expression

namespace Deletion

/-- One more condition, which has to hold as well. -/
def filter (d : Deletion) (condition : Expression) : Deletion :=
  { d with condition := alsoIf d.condition condition }

/-- Without a condition all rows are deleted. -/
def render (d : Deletion) (dialect : Dialect) : Except CompilationFault Fragment := do
  let condition ← whereClause dialect d.condition
  return text ("DELETE FROM " ++ d.table) ++ condition

/-- The deletion as a statement. -/
def compile (d : Deletion) (dialect : Dialect) : Except CompilationFault Statement :=
  (d.render dialect).map (·.finish dialect)

end Deletion

end RowMap
