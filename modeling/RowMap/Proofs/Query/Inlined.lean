import RowMap.Proofs.Sql.Filling
import RowMap.Sql.Write

/-!
# Statements with their values in the text

A second way to write a query: there are no parameters, and a given printed form of each value
stands where the value belongs. `Command` is any of the four kinds of statements.

The texts that a query takes from its caller are names, of tables, columns, functions and aliases,
and raw texts. `callerTexts` lists them.
-/

namespace RowMap

/-- A statement of any kind. -/
inductive Command where
  | selection (d : Dataset)
  | insertion (i : Insertion)
  | update (u : Update)
  | deletion (d : Deletion)

/-- The statement that is sent for a command. -/
def Command.compile (c : Command) (dialect : Dialect) : Except CompilationFault Statement :=
  match c with
  | .selection d => d.compile dialect
  | .insertion i => .ok (i.compile dialect)
  | .update u => u.compile dialect
  | .deletion d => d.compile dialect

/-! ## Printing values -/

section Inlined

variable (print : Value → String) (dialect : Dialect)

/-- A value in place; null is a keyword. -/
def inlinedLiteral : Value → String
  | .null => "NULL"
  | value => print value

mutual

/-- A column at its position; an alias is spelled out in projections only. -/
def Column.inlined (position : Position) : Column → String
  | .reference table name => qualified table name
  | .call function arguments =>
    function ++ "(" ++ ", ".intercalate (inlinedColumns .nested arguments) ++ ")"
  | .literal value => inlinedLiteral print value
  | .aliased inner label =>
    match position with
    | .projection => inner.inlined .nested ++ " AS " ++ label
    | _ => label

/-- The columns of a list at one position. -/
def inlinedColumns (position : Position) : List Column → List String
  | [] => []
  | column :: rest => column.inlined position :: inlinedColumns position rest

end

/-- What is selected; nothing selected means everything. -/
def inlinedProjections : List String → String
  | [] => "*"
  | items => ", ".intercalate items

/-- A keyword and a list behind it, or nothing if the list is empty. -/
def inlinedList (keyword : String) : List String → String
  | [] => ""
  | items => keyword ++ ", ".intercalate items

/-- A key of an ordering with its direction. -/
def inlinedKey (k : OrderKey) : String :=
  k.key.inlined print .key ++ if k.descending then " DESC" else " ASC"

/-- The limit and the offset in the words of the dialect. -/
def inlinedWindow (limit offset : Option UInt64) : String :=
  match dialect.window? limit offset with
  | some window => " " ++ window
  | none => ""

mutual

/-- A condition with its values in place. -/
def Expression.inlined : Expression → String
  | .comparison op left right =>
    (match left with
      | some left => left.inlined print .nested
      | none => "") ++
    match nullTest? op right with
    | some test => " " ++ test.sql
    | none =>
      match right with
      | some right => " " ++ op.sql ++ " " ++ right.inlined
      | none => " " ++ op.sql
  | .group connective operands =>
    "(" ++ (" " ++ connective.sql ++ " ").intercalate (inlinedOperands operands) ++ ")"
  | .negation [operand] =>
    "NOT " ++ if operand.isGroup then operand.inlined else "(" ++ operand.inlined ++ ")"
  | .negation _ => "NOT "
  | .raw text params => Sql.filled (params.map print) text

/-- The operands of a group, the raw ones in parentheses. -/
def inlinedOperands : List Expression → List String
  | [] => []
  | operand :: rest =>
    (if operand.isRaw then "(" ++ operand.inlined ++ ")" else operand.inlined) ::
      inlinedOperands rest

/-- A right-hand side with its values in place. -/
def Operand.inlined : Operand → String
  | .single column => column.inlined print .nested
  | .list columns => "(" ++ ", ".intercalate (inlinedColumns print .nested columns) ++ ")"
  | .subquery dataset => "(" ++ dataset.inlined ++ ")"

/-- What is selected from, with the values of a nested query in place. -/
def Source.inlined : Source → String
  | .table name none => name
  | .table name (some label) => name ++ " AS " ++ label
  | .nested dataset label => "(" ++ dataset.inlined ++ ")" ++ (" AS " ++ label)

/-- The joins one behind the other. -/
def inlinedJoins : List Join → String
  | [] => ""
  | ⟨kind, source, condition⟩ :: rest =>
    " " ++ kind.sql ++ " " ++ source.inlined ++ (" ON " ++ condition.inlined) ++ inlinedJoins rest

/-- A query with its values in place. -/
def Dataset.inlined : Dataset → String
  | ⟨projections, source, joins, filters, groupKeys, groupFilter, orderKeys, limit, offset⟩ =>
    "SELECT " ++ inlinedProjections (inlinedColumns print .projection projections) ++
    (match source with
      | some source => " FROM " ++ source.inlined
      | none => "") ++
    inlinedJoins joins ++
    (match filters with
      | [] => ""
      | [only] => " WHERE " ++ only.inlined
      | filters => " WHERE (" ++ " AND ".intercalate (inlinedOperands filters) ++ ")") ++
    inlinedList " GROUP BY " (inlinedColumns print .key groupKeys) ++
    (match groupFilter with
      | some condition => " HAVING " ++ condition.inlined
      | none => "") ++
    inlinedList " ORDER BY " (orderKeys.map (inlinedKey print)) ++
    inlinedWindow dialect limit offset

end

/-- The source behind its keyword. -/
def inlinedFrom : Option Source → String
  | some source => " FROM " ++ source.inlined print dialect
  | none => ""

/-- The filters behind their keyword; one filter stands without parentheses. -/
def inlinedFilters : List Expression → String
  | [] => ""
  | [only] => " WHERE " ++ only.inlined print dialect
  | filters => " WHERE (" ++ " AND ".intercalate (inlinedOperands print dialect filters) ++ ")"

/-- The filter of groups behind its keyword. -/
def inlinedHaving : Option Expression → String
  | some condition => " HAVING " ++ condition.inlined print dialect
  | none => ""

/-- A query consists of its clauses, in the order of the language. -/
theorem inlined_dataset (projections : List Column) (source : Option Source) (joins : List Join)
    (filters : List Expression) (groupKeys : List Column) (groupFilter : Option Expression)
    (orderKeys : List OrderKey) (limit offset : Option UInt64) :
    Dataset.inlined print dialect ⟨projections, source, joins, filters, groupKeys, groupFilter,
      orderKeys, limit, offset⟩ =
      "SELECT " ++ inlinedProjections (inlinedColumns print .projection projections) ++
        inlinedFrom print dialect source ++ inlinedJoins print dialect joins ++
        inlinedFilters print dialect filters ++
        inlinedList " GROUP BY " (inlinedColumns print .key groupKeys) ++
        inlinedHaving print dialect groupFilter ++
        inlinedList " ORDER BY " (orderKeys.map (inlinedKey print)) ++
        inlinedWindow dialect limit offset := by
  cases source <;> rcases filters with _ | ⟨_, _ | ⟨_, _⟩⟩ <;> cases groupFilter <;> rfl

/-- The condition of a statement behind its keyword. -/
def inlinedCondition : Option Expression → String
  | some condition => " WHERE " ++ condition.inlined print dialect
  | none => ""

/-- An insertion writes null as a value, an update writes it as a keyword. -/
def Command.inlined : Command → String
  | .selection d => d.inlined print dialect
  | .insertion ⟨table, []⟩ => "INSERT INTO " ++ table ++ " DEFAULT VALUES"
  | .insertion ⟨table, values⟩ =>
    "INSERT INTO " ++ table ++ " (" ++ ", ".intercalate (values.map Prod.fst) ++ ") VALUES " ++
      ("(" ++ ", ".intercalate (values.map fun v => print v.2) ++ ")")
  | .update ⟨table, assignments, condition⟩ =>
    "UPDATE " ++ table ++ " SET " ++
      ", ".intercalate (assignments.map fun a => a.1 ++ " = " ++ inlinedLiteral print a.2) ++
      inlinedCondition print dialect condition
  | .deletion ⟨table, condition⟩ =>
    "DELETE FROM " ++ table ++ inlinedCondition print dialect condition

end Inlined

/-! ## Texts of the caller -/

/-- A text that comes from the caller and is written as it is. -/
inductive CallerText where
  | name (text : String)
  | raw (text : String)

/-- Names meet one condition and raw texts another one. -/
def CallerText.Meets (Name Raw : String → Prop) : CallerText → Prop
  | .name text => Name text
  | .raw text => Raw text

instance (Name Raw : String → Prop) [DecidablePred Name] [DecidablePred Raw] :
    DecidablePred (CallerText.Meets Name Raw)
  | .name text => inferInstanceAs (Decidable (Name text))
  | .raw text => inferInstanceAs (Decidable (Raw text))

mutual

/-- The names in a column. -/
def Column.callerTexts : Column → List CallerText
  | .reference none name => [.name name]
  | .reference (some table) name => [.name table, .name name]
  | .call function arguments => .name function :: columnTexts arguments
  | .literal _ => []
  | .aliased inner label => .name label :: inner.callerTexts

/-- The names in a list of columns. -/
def columnTexts : List Column → List CallerText
  | [] => []
  | column :: rest => column.callerTexts ++ columnTexts rest

end

mutual

/-- The names and raw texts in a condition. -/
def Expression.callerTexts : Expression → List CallerText
  | .comparison _ left right =>
    (match left with
      | some left => left.callerTexts
      | none => []) ++
    match right with
    | some right => right.callerTexts
    | none => []
  | .group _ operands => operandTexts operands
  | .negation operands => operandTexts operands
  | .raw text _ => [.raw text]

/-- The names and raw texts in a list of conditions. -/
def operandTexts : List Expression → List CallerText
  | [] => []
  | operand :: rest => operand.callerTexts ++ operandTexts rest

/-- The names and raw texts in a right-hand side. -/
def Operand.callerTexts : Operand → List CallerText
  | .single column => column.callerTexts
  | .list columns => columnTexts columns
  | .subquery dataset => dataset.callerTexts

/-- The names and raw texts in what is selected from. -/
def Source.callerTexts : Source → List CallerText
  | .table name none => [.name name]
  | .table name (some label) => [.name name, .name label]
  | .nested dataset label => .name label :: dataset.callerTexts

/-- The names and raw texts in joins. -/
def joinTexts : List Join → List CallerText
  | [] => []
  | ⟨_, source, condition⟩ :: rest =>
    source.callerTexts ++ condition.callerTexts ++ joinTexts rest

/-- The names and raw texts in a query. -/
def Dataset.callerTexts : Dataset → List CallerText
  | ⟨projections, source, joins, filters, groupKeys, groupFilter, orderKeys, _, _⟩ =>
    columnTexts projections ++
    (match source with
      | some source => source.callerTexts
      | none => []) ++
    joinTexts joins ++ operandTexts filters ++ columnTexts groupKeys ++
    (match groupFilter with
      | some condition => condition.callerTexts
      | none => []) ++
    columnTexts (orderKeys.map OrderKey.key)

end

/-- The texts of a comparison are those of its two sides. -/
theorem texts_comparison (op : Comparison) (left : Option Column) (right : Option Operand) :
    (Expression.comparison op left right).callerTexts =
      left.elim [] Column.callerTexts ++ right.elim [] Operand.callerTexts := by
  cases left <;> cases right <;> rfl

/-- The texts of a dataset are those of its clauses. -/
theorem texts_dataset (projections : List Column) (source : Option Source) (joins : List Join)
    (filters : List Expression) (groupKeys : List Column) (groupFilter : Option Expression)
    (orderKeys : List OrderKey) (limit offset : Option UInt64) :
    Dataset.callerTexts ⟨projections, source, joins, filters, groupKeys, groupFilter, orderKeys,
      limit, offset⟩ =
      columnTexts projections ++ source.elim [] Source.callerTexts ++ joinTexts joins ++
        operandTexts filters ++ columnTexts groupKeys ++
        groupFilter.elim [] Expression.callerTexts ++
        columnTexts (orderKeys.map OrderKey.key) := by
  cases source <;> cases groupFilter <;> rfl

/-- The names and raw texts in the condition of a statement. -/
def conditionTexts : Option Expression → List CallerText
  | some condition => condition.callerTexts
  | none => []

/-- The names and raw texts in a statement of any kind. -/
def Command.callerTexts : Command → List CallerText
  | .selection d => d.callerTexts
  | .insertion i => .name i.table :: i.values.map fun v => .name v.1
  | .update u =>
    .name u.table :: u.assignments.map (fun a => .name a.1) ++ conditionTexts u.condition
  | .deletion d => .name d.table :: conditionTexts d.condition

end RowMap
