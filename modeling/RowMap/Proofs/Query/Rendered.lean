import RowMap.Proofs.Except
import RowMap.Query.Render

/-!
# What a rendering consists of

For each node of a query the condition under which it is rendered, and the fragment that results
from those of its parts. Proofs about renderings take a node apart by these equivalences and do not
unfold the rendering itself.
-/

namespace RowMap

open Fragment (text joined parenthesized)

section Columns

variable {position : Position} {f : Fragment}

attribute [local simp] Column.render

/-- A column name renders if it is not empty. -/
theorem render_reference_eq_ok {table : Option String} {name : String} :
    (Column.reference table name).render position = .ok f ↔
      name ≠ "" ∧ text (qualified table name) = f := by
  rw [Column.render]
  split <;> simp_all

/-- A call renders if it has a name and its arguments render. -/
theorem render_call_eq_ok {function : String} {arguments : List Column} :
    (Column.call function arguments).render position = .ok f ↔
      function ≠ "" ∧ ∃ fs, renderColumns .nested arguments = .ok fs ∧
        text function ++ parenthesized (joined ", " fs) = f := by
  rw [Column.render]
  split
  · simp_all
  · simp_all only [bind_eq_ok, pure_eq_ok, ne_eq, not_false_eq_true, true_and]

theorem render_literal_eq_ok {value : Value} :
    (Column.literal value).render position = .ok f ↔ Fragment.literal value = f := by
  rw [Column.render, Except.ok.injEq]

/-- An alias is spelled out in projections, stands alone in keys, and renders nowhere else. -/
theorem render_aliased_eq_ok {inner : Column} {label : String} :
    (Column.aliased inner label).render position = .ok f ↔
      (position = .projection ∧ ∃ g, inner.render .nested = .ok g ∧
        g ++ text (" AS " ++ label) = f) ∨ (position = .key ∧ text label = f) := by
  cases position <;> simp [-bind_pure_comp, bind_eq_ok, pure_eq_ok]

/-- Columns render one by one. -/
theorem renderColumns_cons_eq_ok {column : Column} {rest : List Column} {fs : List Fragment} :
    renderColumns position (column :: rest) = .ok fs ↔
      ∃ f, column.render position = .ok f ∧ ∃ gs, renderColumns position rest = .ok gs ∧
        f :: gs = fs := by
  simp only [renderColumns, bind_eq_ok, pure_eq_ok]

end Columns

/-! ## Conditions -/

section Conditions

variable {dialect : Dialect} {f : Fragment}

attribute [local simp] Expression.render Operand.render

/-- A comparison needs a left side, and a right side unless it is a test for null. -/
theorem render_comparison_eq_ok {op : Comparison} {left : Option Column}
    {right : Option Operand} :
    (Expression.comparison op left right).render dialect = .ok f ↔
      ∃ column g, left = some column ∧ column.render .nested = .ok g ∧
        ((∃ test, nullTest? op right = some test ∧ g ++ text (" " ++ test.sql) = f) ∨
        (nullTest? op right = none ∧ op.isUnary = true ∧ right = none ∧
          g ++ text (" " ++ op.sql) = f) ∨
        (nullTest? op right = none ∧ op.isUnary = false ∧ ∃ operand h, right = some operand ∧
          operand.render dialect op = .ok h ∧ g ++ text (" " ++ op.sql ++ " ") ++ h = f)) := by
  cases left with
  | none => simp [bind, Except.bind]
  | some column =>
    rw [Expression.render, bind_eq_ok]
    simp only [Option.some.injEq, exists_and_left, exists_eq_left']
    refine exists_congr fun g => and_congr_right fun _ => ?_
    cases nullTest? op right with
    | some test => simp [pure_eq_ok]
    | none =>
      cases op.isUnary <;> cases right <;> simp [-bind_pure_comp, bind_eq_ok, pure_eq_ok]

/-- A group renders if it has operands and all of them render. -/
theorem render_group_eq_ok {connective : Connective} {operands : List Expression} :
    (Expression.group connective operands).render dialect = .ok f ↔
      operands ≠ [] ∧ ∃ fs, renderOperands dialect operands = .ok fs ∧
        groupOf connective fs = f := by
  cases operands with
  | nil => simp [bind, Except.bind]
  | cons => simp [-bind_pure_comp, bind_eq_ok, pure_eq_ok]

/-- A negation renders if it has one operand that renders. -/
theorem render_negation_eq_ok {operands : List Expression} :
    (Expression.negation operands).render dialect = .ok f ↔
      ∃ operand g, operands = [operand] ∧ operand.render dialect = .ok g ∧
        text "NOT " ++ (if operand.isGroup then g else parenthesized g) = f := by
  match operands with
  | [] => simp
  | [operand] => simp [-bind_pure_comp, bind_eq_ok, pure_eq_ok]
  | _ :: _ :: _ => simp

/-- A raw text renders if its placeholders and its parameters are equally many. -/
theorem render_raw_eq_ok {sql : String} {params : List Value} :
    (Expression.raw sql params).render dialect = .ok f ↔
      Sql.placeholders sql = params.length ∧ ⟨sql, params⟩ = f := by
  simp only [Expression.render]
  split <;> simp_all

/-- A raw text is refused with both of its counts. -/
theorem render_raw_of_ne {sql : String} {params : List Value}
    (h : Sql.placeholders sql ≠ params.length) :
    (Expression.raw sql params).render dialect =
      .error (.parameterCount sql (Sql.placeholders sql) params.length) := by
  rw [Expression.render, if_neg h]

/-- Operands render one by one, the raw ones in parentheses. -/
theorem renderOperands_cons_eq_ok {operand : Expression} {rest : List Expression}
    {fs : List Fragment} :
    renderOperands dialect (operand :: rest) = .ok fs ↔
      ∃ f, operand.render dialect = .ok f ∧ ∃ gs, renderOperands dialect rest = .ok gs ∧
        (if operand.isRaw then parenthesized f else f) :: gs = fs := by
  simp only [renderOperands, bind_eq_ok, pure_eq_ok]

/-- A column renders behind operators that take one value. -/
theorem render_single_eq_ok {op : Comparison} {column : Column} :
    (Operand.single column).render dialect op = .ok f ↔
      op.isMembership = false ∧ column.render .nested = .ok f := by
  cases h : op.isMembership <;> simp [h]

/-- A list renders behind operators that take several values, if it is not empty. -/
theorem render_list_eq_ok {op : Comparison} {columns : List Column} :
    (Operand.list columns).render dialect op = .ok f ↔
      op.isMembership = true ∧ columns ≠ [] ∧ ∃ fs, renderColumns .nested columns = .ok fs ∧
        parenthesized (joined ", " fs) = f := by
  cases h : op.isMembership <;> cases columns <;>
    simp [h, -bind_pure_comp, bind_eq_ok, pure_eq_ok]

/-- A nested query renders behind operators that take several values. -/
theorem render_subquery_eq_ok {op : Comparison} {dataset : Dataset} :
    (Operand.subquery dataset).render dialect op = .ok f ↔
      op.isMembership = true ∧ ∃ g, dataset.render dialect = .ok g ∧ parenthesized g = f := by
  cases h : op.isMembership <;> simp [h, -bind_pure_comp, bind_eq_ok, pure_eq_ok]

end Conditions

/-! ## Sources and datasets -/

section Datasets

variable {dialect : Dialect} {f : Fragment}

/-- A table renders if its name is not empty. -/
theorem render_table_eq_ok {name : String} {label : Option String} :
    (Source.table name label).render dialect = .ok f ↔
      name ≠ "" ∧ text (match label with
        | some label => name ++ " AS " ++ label
        | none => name) = f := by
  cases label <;> by_cases h : name = "" <;> simp [Source.render, h]

/-- A nested dataset renders in parentheses. -/
theorem render_nested_eq_ok {dataset : Dataset} {label : String} :
    (Source.nested dataset label).render dialect = .ok f ↔
      ∃ g, dataset.render dialect = .ok g ∧ parenthesized g ++ text (" AS " ++ label) = f := by
  simp only [Source.render, bind_eq_ok, pure_eq_ok]

/-- Joins render one by one, each with its source and its condition. -/
theorem renderJoins_cons_eq_ok {kind : JoinKind} {source : Source} {condition : Expression}
    {rest : List Join} :
    renderJoins dialect (⟨kind, source, condition⟩ :: rest) = .ok f ↔
      ∃ g, source.render dialect = .ok g ∧ ∃ h, condition.render dialect = .ok h ∧
        ∃ k, renderJoins dialect rest = .ok k ∧ clause kind.sql g ++ clause "ON" h ++ k = f := by
  simp only [renderJoins, bind_eq_ok, pure_eq_ok]

/-- The source of a dataset behind its keyword. Joins need one. -/
def fromClause (dialect : Dialect) (joins : List Join) :
    Option Source → Except CompilationFault Fragment
  | some source => (source.render dialect).map (clause "FROM")
  | none => if joins.isEmpty then .ok Fragment.empty else .error .joinWithoutSource

/-- The conditions of a dataset. One stands alone, several form a group. -/
def filterClause (dialect : Dialect) : List Expression → Except CompilationFault Fragment
  | [] => .ok Fragment.empty
  | [only] => (only.render dialect).map (clause "WHERE")
  | filters =>
    (renderOperands dialect filters).map fun fs => clause "WHERE" (groupOf .conjunction fs)

/-- The filter of groups behind its keyword. -/
def havingClause (dialect : Dialect) : Option Expression → Except CompilationFault Fragment
  | some condition => (condition.render dialect).map (clause "HAVING")
  | none => .ok Fragment.empty

/-- A dataset is rendered clause by clause. -/
theorem render_dataset (projections : List Column) (source : Option Source) (joins : List Join)
    (filters : List Expression) (groupKeys : List Column) (groupFilter : Option Expression)
    (orderKeys : List OrderKey) (limit offset : Option UInt64) :
    Dataset.render dialect ⟨projections, source, joins, filters, groupKeys, groupFilter, orderKeys,
      limit, offset⟩ = do
      let projections ← renderColumns .projection projections
      let source ← fromClause dialect joins source
      let joins ← renderJoins dialect joins
      let filters ← filterClause dialect filters
      let groupKeys ← renderColumns .key groupKeys
      let groupFilter ← havingClause dialect groupFilter
      let orderKeys ← orderKeys.mapM OrderKey.render
      return text "SELECT " ++ projectionList projections ++ source ++ joins ++ filters
        ++ listClause "GROUP BY" groupKeys ++ groupFilter ++ listClause "ORDER BY" orderKeys
        ++ windowClause dialect limit offset := by
  rw [Dataset.render]
  cases source <;> rcases filters with _ | ⟨only, _ | ⟨second, rest⟩⟩ <;> cases groupFilter <;>
    cases hj : joins.isEmpty <;> simp [fromClause, filterClause, havingClause, hj]

/-- A dataset that has conditions and a window only. -/
theorem render_rows {source : Source} {origin : Fragment}
    (hsource : source.render dialect = .ok origin) (filters : List Expression)
    (limit offset : Option UInt64) :
    Dataset.render dialect ⟨[], some source, [], filters, [], none, [], limit, offset⟩ =
      (filterClause dialect filters).map fun conditions =>
        text "SELECT *" ++ clause "FROM" origin ++ conditions
          ++ windowClause dialect limit offset := by
  have hhead : text "SELECT " ++ projectionList [] = text "SELECT *" := rfl
  rw [render_dataset]
  simp only [renderColumns, fromClause, hsource, renderJoins, havingClause, List.mapM_nil,
    Except.map, bind, Except.bind, pure, Except.pure, hhead, listClause, Fragment.append_empty]

/-- A key of an ordering renders with its direction. -/
theorem render_orderKey_eq_ok {key : OrderKey} :
    key.render = .ok f ↔ ∃ g, key.key.render .key = .ok g ∧
      g ++ text (if key.descending then " DESC" else " ASC") = f := by
  simp only [OrderKey.render, bind_eq_ok, pure_eq_ok]

end Datasets

end RowMap
