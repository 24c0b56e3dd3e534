import RowMap.Value.Basic

/-!
# Queries

A query is a tree: columns are projected and compared, comparisons are combined to conditions, and
a dataset puts columns, sources and conditions together to one selection of rows. A dataset may be
the source of another one or the right-hand side of a membership test.

Datasets are refined step by step. Every step touches one clause only: columns and keys are
appended, conditions are collected, and a source, a group condition or a bound replaces the one
before.
-/

namespace RowMap

/-- Anything that can be projected, grouped on, ordered by or compared. -/
inductive Column where
  | reference (table : Option String) (name : String)
  | call (function : String) (arguments : List Column)
  | literal (value : Value)
  | aliased (inner : Column) (label : String)

namespace Column

/-- The column of a reference such as `name` or `table.name`; what stands before the first point is
the table. -/
def named (reference : String) : Column :=
  match reference.toList.span (· ≠ '.') with
  | (table, _ :: name) => .reference (some (String.ofList table)) (String.ofList name)
  | (name, []) => .reference none (String.ofList name)

/-- The number of rows that have a value in the column. -/
def count (argument : Column) : Column :=
  .call "COUNT" [argument]

/-- The number of rows. -/
def countAll : Column :=
  .call "COUNT" [named "*"]

/-- The sum over the rows of a group. -/
def sum (argument : Column) : Column :=
  .call "SUM" [argument]

/-- The average over the rows of a group. -/
def avg (argument : Column) : Column :=
  .call "AVG" [argument]

/-- The least value of a group. -/
def min (argument : Column) : Column :=
  .call "MIN" [argument]

/-- The greatest value of a group. -/
def max (argument : Column) : Column :=
  .call "MAX" [argument]

/-- A literal null, which a comparison turns into a test. -/
def isNullLiteral : Column → Bool
  | .literal value => value.isNull
  | _ => false

end Column

/-- The operators between a column and what it is compared with. -/
inductive Comparison where
  | eq
  | ne
  | lt
  | le
  | gt
  | ge
  | like
  | notLike
  | isIn
  | notIn
  | isNull
  | isNotNull
  deriving DecidableEq

namespace Comparison

/-- The operator as it is written. -/
def sql : Comparison → String
  | .eq => "="
  | .ne => "!="
  | .lt => "<"
  | .le => "<="
  | .gt => ">"
  | .ge => ">="
  | .like => "LIKE"
  | .notLike => "NOT LIKE"
  | .isIn => "IN"
  | .notIn => "NOT IN"
  | .isNull => "IS NULL"
  | .isNotNull => "IS NOT NULL"

/-- Operators without a right operand. -/
def isUnary : Comparison → Bool
  | .isNull | .isNotNull => true
  | _ => false

/-- Operators whose right operand is a list or a dataset. -/
def isMembership : Comparison → Bool
  | .isIn | .notIn => true
  | _ => false

end Comparison

/-- How the conditions of a group are combined. -/
inductive Connective where
  | conjunction
  | disjunction
  deriving DecidableEq

/-- The connective as it is written. -/
def Connective.sql : Connective → String
  | .conjunction => "AND"
  | .disjunction => "OR"

/-- The two kinds of joins. -/
inductive JoinKind where
  | inner
  | left
  deriving DecidableEq

/-- The keyword of a join. -/
def JoinKind.sql : JoinKind → String
  | .inner => "INNER JOIN"
  | .left => "LEFT JOIN"

/-- What rows are ordered by, and in which direction. -/
structure OrderKey where
  key : Column
  descending : Bool

/-- Smaller values first. -/
def Column.ascending (c : Column) : OrderKey :=
  ⟨c, false⟩

/-- Larger values first. -/
def Column.descending (c : Column) : OrderKey :=
  ⟨c, true⟩

/-! ## Conditions, sources and datasets -/

mutual

/-- The right-hand side of a comparison. -/
inductive Operand where
  | single (column : Column)
  | list (columns : List Column)
  | subquery (dataset : Dataset)

/-- Conditions, as the caller puts them together; not each of them can be rendered. -/
inductive Expression where
  | comparison (op : Comparison) (left : Option Column) (right : Option Operand)
  | group (connective : Connective) (operands : List Expression)
  | negation (operands : List Expression)
  /-- Text of the caller with the parameters of its placeholders. -/
  | raw (text : String) (params : List Value)

/-- What rows are selected from. -/
inductive Source where
  | table (name : String) (label : Option String)
  | nested (dataset : Dataset) (label : String)

/-- A further source with the condition that ties its rows to the others. -/
structure Join where
  kind : JoinKind
  source : Source
  condition : Expression

/-- One selection of rows. -/
structure Dataset where
  projections : List Column
  source : Option Source
  joins : List Join
  filters : List Expression
  groupKeys : List Column
  groupFilter : Option Expression
  orderKeys : List OrderKey
  limit : Option UInt64
  offset : Option UInt64

end

namespace Expression

/-- All operands hold. -/
def all (operands : List Expression) : Expression :=
  .group .conjunction operands

/-- One of the operands holds. -/
def any (operands : List Expression) : Expression :=
  .group .disjunction operands

/-- The operand does not hold. -/
def negate (operand : Expression) : Expression :=
  .negation [operand]

/-- Combines two conditions. A first one that already is such a group, and not an empty one, takes
in the second. -/
def combine (connective : Connective) (first second : Expression) : Expression :=
  match first with
  | .group c operands =>
    if c = connective ∧ operands ≠ [] then .group connective (operands ++ [second])
    else .group connective [first, second]
  | _ => .group connective [first, second]

/-- Both conditions hold. -/
def and : Expression → Expression → Expression :=
  combine .conjunction

/-- One of the conditions holds. -/
def or : Expression → Expression → Expression :=
  combine .disjunction

/-- A group comes with its own parentheses. -/
def isGroup : Expression → Bool
  | .group .. => true
  | _ => false

/-- Text of the caller, which is put in parentheses inside a group. -/
def isRaw : Expression → Bool
  | .raw .. => true
  | _ => false

end Expression

namespace Column

/-- The comparison of a column with an operand. -/
def compare (op : Comparison) (c : Column) (right : Operand) : Expression :=
  .comparison op (some c) (some right)

/-- The comparison of a column by an operator without a right operand. -/
def test (op : Comparison) (c : Column) : Expression :=
  .comparison op (some c) none

/-- Whether a column is one of some values. -/
def isIn (c : Column) (values : List Value) : Expression :=
  c.compare .isIn (.list (values.map .literal))

/-- The column has none of the values. -/
def notIn (c : Column) (values : List Value) : Expression :=
  c.compare .notIn (.list (values.map .literal))

/-- The column has one of the values that the dataset selects. -/
def inDataset (c : Column) (dataset : Dataset) : Expression :=
  c.compare .isIn (.subquery dataset)

/-- The column has the value. -/
def equals (c : Column) (value : Value) : Expression :=
  c.compare .eq (.single (.literal value))

end Column

/-! ## Refining datasets -/

/-- A bound on rows that is below zero. -/
structure NegativeBound where
  clause : String
  bound : Int64

namespace Dataset

/-- Selects everything from nowhere. -/
def empty : Dataset :=
  ⟨[], none, [], [], [], none, [], none, none⟩

/-- Columns behind those that are selected so far. -/
def select (d : Dataset) (columns : List Column) : Dataset :=
  { d with projections := d.projections ++ columns }

/-- The source that is selected from; it takes the place of an earlier one. -/
def fromSource (d : Dataset) (source : Source) : Dataset :=
  { d with source := some source }

/-- A table without an alias as the source. -/
def fromTable (d : Dataset) (name : String) : Dataset :=
  d.fromSource (.table name none)

/-- Adds a condition; all conditions must hold. -/
def filter (d : Dataset) (condition : Expression) : Dataset :=
  { d with filters := d.filters ++ [condition] }

/-- A join behind those of the dataset. -/
def join (d : Dataset) (kind : JoinKind) (source : Source) (condition : Expression) : Dataset :=
  { d with joins := d.joins ++ [⟨kind, source, condition⟩] }

/-- Keys behind those that are grouped by so far. -/
def groupBy (d : Dataset) (keys : List Column) : Dataset :=
  { d with groupKeys := d.groupKeys ++ keys }

/-- The filter of groups; it takes the place of an earlier one. -/
def having (d : Dataset) (condition : Expression) : Dataset :=
  { d with groupFilter := some condition }

/-- Keys behind those that are ordered by so far. -/
def orderBy (d : Dataset) (keys : List OrderKey) : Dataset :=
  { d with orderKeys := d.orderKeys ++ keys }

/-- A bound as a number of rows. -/
def rows (clause : String) (bound : Int64) : Except NegativeBound UInt64 :=
  if bound < 0 then .error ⟨clause, bound⟩ else .ok bound.toUInt64

/-- The largest number of rows; a negative one is refused. -/
def withLimit (d : Dataset) (bound : Int64) : Except NegativeBound Dataset := do
  let n ← rows "limit" bound
  return { d with limit := some n }

/-- The number of rows to leave out; a negative one is refused. -/
def withOffset (d : Dataset) (bound : Int64) : Except NegativeBound Dataset := do
  let n ← rows "offset" bound
  return { d with offset := some n }

/-- The dataset with at most one row. -/
def first (d : Dataset) : Dataset :=
  { d with limit := some 1 }

end Dataset

end RowMap
