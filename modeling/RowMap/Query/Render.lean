import RowMap.Query.Fault
import RowMap.Sql.Fragment

/-!
# Queries as SQL

Rendering turns each node of a query into a fragment built from the fragments of its parts, from
left to right, so the parameters come in the order of their placeholders. It fails at the first
node that has no SQL.

Groups are always parenthesized, and so is the operand of a negation. Text of the caller is
parenthesized wherever it becomes part of a larger condition. The dialect matters only for the row
window of a dataset; placeholders are finished once, for the whole statement.
-/

namespace RowMap

open Fragment (text joined parenthesized)

/-- Where a column is written, which decides what an alias means. -/
inductive Position where
  /-- The outermost list of a selection, where an alias is declared. -/
  | projection
  /-- Grouping and ordering, where an alias is referred to. -/
  | key
  /-- Inside of another expression, where no alias may stand. -/
  | nested
  deriving DecidableEq

/-- A name with the table it belongs to, if given. -/
def qualified : (table : Option String) → (name : String) → String
  | none, name => name
  | some table, name => table ++ "." ++ name

mutual

/-- A column at its position. -/
def Column.render (position : Position) : Column → Except CompilationFault Fragment
  | .reference table name =>
    if name = "" then .error .emptyColumnName else .ok (text (qualified table name))
  | .call function arguments =>
    if function = "" then .error .emptyFunctionName
    else do
      let arguments ← renderColumns .nested arguments
      return text function ++ parenthesized (joined ", " arguments)
  | .literal value => .ok (Fragment.literal value)
  | .aliased inner label =>
    match position with
    | .projection => do
      let inner ← inner.render .nested
      return inner ++ text (" AS " ++ label)
    | .key => .ok (text label)
    | .nested => .error (.misplacedAlias label)

/-- Columns up to the first one that cannot be rendered. -/
def renderColumns (position : Position) : List Column → Except CompilationFault (List Fragment)
  | [] => .ok []
  | column :: rest => do
    let first ← column.render position
    let others ← renderColumns position rest
    return first :: others

end

/-- A keyword and what follows it. -/
def clause (keyword : String) (body : Fragment) : Fragment :=
  text (" " ++ keyword ++ " ") ++ body

/-- A list behind a keyword, left out if it is empty. -/
def listClause (keyword : String) : List Fragment → Fragment
  | [] => Fragment.empty
  | items => clause keyword (joined ", " items)

/-- The items of a selection; nothing selected means everything. -/
def projectionList : List Fragment → Fragment
  | [] => text "*"
  | items => joined ", " items

/-- The test that a comparison with a null literal is replaced by. -/
def nullTest? : Comparison → Option Operand → Option Comparison
  | .eq, some (.single column) => if column.isNullLiteral then some .isNull else none
  | .ne, some (.single column) => if column.isNullLiteral then some .isNotNull else none
  | _, _ => none

/-- A key of an ordering with its direction. -/
def OrderKey.render (k : OrderKey) : Except CompilationFault Fragment := do
  let key ← k.key.render .key
  return key ++ text (if k.descending then " DESC" else " ASC")

/-- The limit and the offset in the words of the dialect. -/
def windowClause (dialect : Dialect) (limit offset : Option UInt64) : Fragment :=
  match dialect.window? limit offset with
  | some window => text (" " ++ window)
  | none => Fragment.empty

/-- A parenthesized group of conditions. -/
def groupOf (connective : Connective) (operands : List Fragment) : Fragment :=
  parenthesized (joined (" " ++ connective.sql ++ " ") operands)

mutual

/-- A condition, checked while it is rendered. -/
def Expression.render (dialect : Dialect) : Expression → Except CompilationFault Fragment
  | .comparison op left right => do
    let left ← match left with
      | some left => left.render .nested
      | none => .error (.missingLeft op)
    match nullTest? op right with
    | some test => return left ++ text (" " ++ test.sql)
    | none =>
      match op.isUnary, right with
      | true, none => return left ++ text (" " ++ op.sql)
      | true, some _ => .error (.surplusRight op)
      | false, none => .error (.missingRight op)
      | false, some right =>
        let right ← right.render dialect op
        return left ++ text (" " ++ op.sql ++ " ") ++ right
  | .group connective operands => do
    if operands.isEmpty then .error (.emptyGroup connective)
    let operands ← renderOperands dialect operands
    return groupOf connective operands
  | .negation [operand] => do
    let rendered ← operand.render dialect
    return text "NOT " ++ (if operand.isGroup then rendered else parenthesized rendered)
  | .negation operands => .error (.negationArity operands.length)
  | .raw sql params =>
    let expected := Sql.placeholders sql
    if expected = params.length then .ok ⟨sql, params⟩
    else .error (.parameterCount sql expected params.length)

/-- The operands of a group. -/
def renderOperands (dialect : Dialect) :
    List Expression → Except CompilationFault (List Fragment)
  | [] => .ok []
  | operand :: rest => do
    let rendered ← operand.render dialect
    let others ← renderOperands dialect rest
    return (if operand.isRaw then parenthesized rendered else rendered) :: others

/-- The right operand of an operator that takes one. -/
def Operand.render (dialect : Dialect) (op : Comparison) :
    Operand → Except CompilationFault Fragment
  | .single column => if op.isMembership then .error (.notACollection op) else column.render .nested
  | .list columns =>
    if !op.isMembership then .error (.notSingle op)
    else if columns.isEmpty then .error (.emptyList op)
    else do
      let items ← renderColumns .nested columns
      return parenthesized (joined ", " items)
  | .subquery dataset =>
    if !op.isMembership then .error (.notSingle op)
    else do
      let inner ← dataset.render dialect
      return parenthesized inner

/-- A table or a nested query. -/
def Source.render (dialect : Dialect) : Source → Except CompilationFault Fragment
  | .table name label =>
    if name = "" then .error .emptyTableName
    else .ok (text (match label with
      | some label => name ++ " AS " ++ label
      | none => name))
  | .nested dataset label => do
    let inner ← dataset.render dialect
    return parenthesized inner ++ text (" AS " ++ label)

/-- Joins up to the first one that cannot be rendered. -/
def renderJoins (dialect : Dialect) : List Join → Except CompilationFault Fragment
  | [] => .ok Fragment.empty
  | ⟨kind, source, condition⟩ :: rest => do
    let source ← source.render dialect
    let condition ← condition.render dialect
    let others ← renderJoins dialect rest
    return clause kind.sql source ++ clause "ON" condition ++ others

/-- The clauses of a selection in their fixed order. -/
def Dataset.render (dialect : Dialect) : Dataset → Except CompilationFault Fragment
  | ⟨projections, source, joins, filters, groupKeys, groupFilter, orderKeys, limit, offset⟩ => do
    let projections ← renderColumns .projection projections
    let source ← match source with
      | some source => (source.render dialect).map (clause "FROM")
      | none => if joins.isEmpty then .ok Fragment.empty else .error .joinWithoutSource
    let joins ← renderJoins dialect joins
    let filters ← match filters with
      | [] => .ok Fragment.empty
      | [only] => (only.render dialect).map (clause "WHERE")
      | filters =>
        (renderOperands dialect filters).map fun fs => clause "WHERE" (groupOf .conjunction fs)
    let groupKeys ← renderColumns .key groupKeys
    let groupFilter ← match groupFilter with
      | some condition => (condition.render dialect).map (clause "HAVING")
      | none => .ok Fragment.empty
    let orderKeys ← orderKeys.mapM OrderKey.render
    return text "SELECT " ++ projectionList projections ++ source ++ joins ++ filters
      ++ listClause "GROUP BY" groupKeys ++ groupFilter ++ listClause "ORDER BY" orderKeys
      ++ windowClause dialect limit offset

end

/-- The statement of a dataset in a dialect. -/
def Dataset.compile (d : Dataset) (dialect : Dialect) : Except CompilationFault Statement :=
  (d.render dialect).map (·.finish dialect)

end RowMap
