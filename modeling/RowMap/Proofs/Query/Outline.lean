import RowMap.Proofs.Query.Inlined
import RowMap.Proofs.Query.WellFormed

/-!
# Outlines

The text of a statement before it is decided how an offset without a limit is written. An outline is
a list of texts and of such offsets; `written` completes it by what is to be put before an offset.
Every value is a question mark. A query with question marks for its values is its outline written
with what the dialect puts before an offset (`Dataset.written_outline`).

`datasets` lists the datasets that a statement contains, in the order in which their windows
are written. The offsets of an outline are those of the datasets without a limit
(`Dataset.offsets_outline`).
-/

namespace RowMap

/-- A piece of a statement. -/
inductive Piece where
  | text (sql : String)
  /-- An offset that has no limit before it. -/
  | offset (rows : UInt64)

/-- The text of an outline, with something written before each offset. -/
def written (before : String) : List Piece → String
  | [] => ""
  | .text sql :: rest => sql ++ written before rest
  | .offset rows :: rest => before ++ "OFFSET " ++ Decimal.text rows.toNat ++ written before rest

/-- The offsets of an outline. -/
def offsets : List Piece → List UInt64
  | [] => []
  | .text _ :: rest => offsets rest
  | .offset rows :: rest => rows :: offsets rest

/-- A list of pieces between parentheses. -/
def enclosed (ps : List Piece) : List Piece :=
  .text "(" :: ps ++ [.text ")"]

/-- Lists of pieces with a separator between each two. -/
def separated (separator : String) (pss : List (List Piece)) : List Piece :=
  [.text separator].intercalate pss

section Pieces

variable {before : String}

/-- A list is written piece by piece. -/
theorem written_append (ps qs : List Piece) :
    written before (ps ++ qs) = written before ps ++ written before qs := by
  induction ps with
  | nil => simp [written]
  | cons p ps ih => cases p <;> simp [written, ih, String.append_assoc]

theorem offsets_append (ps qs : List Piece) : offsets (ps ++ qs) = offsets ps ++ offsets qs := by
  induction ps with
  | nil => rfl
  | cons p ps ih => cases p <;> simp [offsets, ih]

theorem written_enclosed (ps : List Piece) :
    written before (enclosed ps) = "(" ++ written before ps ++ ")" := by
  simp [enclosed, written, written_append, String.append_assoc]

theorem offsets_enclosed (ps : List Piece) : offsets (enclosed ps) = offsets ps := by
  simp [enclosed, offsets, offsets_append]

theorem written_separated (separator : String) : (pss : List (List Piece)) →
    written before (separated separator pss) = separator.intercalate (pss.map (written before))
  | [] => rfl
  | [ps] => by simp [separated]
  | ps :: qs :: rest => by
    have ih := written_separated separator (qs :: rest)
    rw [separated] at *
    rw [List.intercalate_cons_cons]
    simp [written_append, ih, written, String.append_assoc]

/-- A separator adds no offset. -/
theorem offsets_separated (separator : String) : (pss : List (List Piece)) →
    offsets (separated separator pss) = pss.flatMap offsets
  | [] => rfl
  | [ps] => by simp [separated]
  | ps :: qs :: rest => by
    have ih := offsets_separated separator (qs :: rest)
    rw [separated] at *
    rw [List.intercalate_cons_cons]
    simp [offsets_append, ih, offsets]

/-- Without offsets there is one way only to write an outline. -/
theorem written_of_offsets_nil {ps : List Piece} (h : offsets ps = []) (other : String) :
    written before ps = written other ps := by
  induction ps with
  | nil => rfl
  | cons p ps ih =>
    cases p with
    | text sql => rw [written, written, ih h]
    | offset rows => cases h

end Pieces

/-! ## Outlines of queries -/

/-- The printed form of a value in an outline. -/
def questionMark : Value → String :=
  fun _ => "?"

/-- A window is one text, except that an offset without a limit is a piece of its own. -/
def windowOutline : (limit offset : Option UInt64) → List Piece
  | none, some offset => [.text " ", .offset offset]
  | limit, offset => [.text (inlinedWindow .neutral limit offset)]

mutual

/-- The outline of a condition. -/
def Expression.outline : Expression → List Piece
  | .comparison op left right =>
    .text (match left with
      | some left => left.inlined questionMark .nested
      | none => "") ::
    match nullTest? op right with
    | some test => [.text (" " ++ test.sql)]
    | none =>
      match right with
      | some right => .text (" " ++ op.sql ++ " ") :: right.outline
      | none => [.text (" " ++ op.sql)]
  | .group connective operands =>
    enclosed (separated (" " ++ connective.sql ++ " ") (operandOutlines operands))
  | .negation [operand] =>
    .text "NOT " :: if operand.isGroup then operand.outline else enclosed operand.outline
  | .negation _ => [.text "NOT "]
  | .raw text _ => [.text text]

/-- The outlines of operands; a raw one is put in parentheses. -/
def operandOutlines : List Expression → List (List Piece)
  | [] => []
  | operand :: rest =>
    (if operand.isRaw then enclosed operand.outline else operand.outline) :: operandOutlines rest

/-- The outline of a right-hand side. -/
def Operand.outline : Operand → List Piece
  | .single column => [.text (column.inlined questionMark .nested)]
  | .list columns =>
    [.text ("(" ++ ", ".intercalate (inlinedColumns questionMark .nested columns) ++ ")")]
  | .subquery dataset => enclosed dataset.outline

/-- The outline of what is selected from. -/
def Source.outline : Source → List Piece
  | .table name none => [.text name]
  | .table name (some label) => [.text (name ++ " AS " ++ label)]
  | .nested dataset label => enclosed dataset.outline ++ [.text (" AS " ++ label)]

/-- The outlines of joins, one behind the other. -/
def joinOutlines : List Join → List Piece
  | [] => []
  | ⟨kind, source, condition⟩ :: rest =>
    .text (" " ++ kind.sql ++ " ") :: source.outline ++ .text " ON " :: condition.outline ++
      joinOutlines rest

/-- The outline of a query, its window last. -/
def Dataset.outline : Dataset → List Piece
  | ⟨projections, source, joins, filters, groupKeys, groupFilter, orderKeys, limit, offset⟩ =>
    .text ("SELECT " ++ inlinedProjections (inlinedColumns questionMark .projection projections)) ::
    (match source with
      | some source => .text " FROM " :: source.outline
      | none => []) ++
    joinOutlines joins ++
    (match filters with
      | [] => []
      | [only] => .text " WHERE " :: only.outline
      | filters => .text " WHERE " :: enclosed (separated " AND " (operandOutlines filters))) ++
    .text (inlinedList " GROUP BY " (inlinedColumns questionMark .key groupKeys)) ::
    (match groupFilter with
      | some condition => .text " HAVING " :: condition.outline
      | none => []) ++
    .text (inlinedList " ORDER BY " (orderKeys.map (inlinedKey questionMark))) ::
    windowOutline limit offset

end

/-- The outline of the source behind its keyword. -/
def fromOutline : Option Source → List Piece
  | some source => .text " FROM " :: source.outline
  | none => []

/-- The outline of the filters; one filter stands without parentheses. -/
def filterOutline : List Expression → List Piece
  | [] => []
  | [only] => .text " WHERE " :: only.outline
  | filters => .text " WHERE " :: enclosed (separated " AND " (operandOutlines filters))

/-- The outline of the filter of groups behind its keyword. -/
def havingOutline : Option Expression → List Piece
  | some condition => .text " HAVING " :: condition.outline
  | none => []

/-- The outline of a dataset is that of its clauses. -/
theorem outline_dataset (projections : List Column) (source : Option Source) (joins : List Join)
    (filters : List Expression) (groupKeys : List Column) (groupFilter : Option Expression)
    (orderKeys : List OrderKey) (limit offset : Option UInt64) :
    Dataset.outline ⟨projections, source, joins, filters, groupKeys, groupFilter, orderKeys, limit,
      offset⟩ =
      .text ("SELECT " ++
        inlinedProjections (inlinedColumns questionMark .projection projections)) ::
      fromOutline source ++ joinOutlines joins ++ filterOutline filters ++
      .text (inlinedList " GROUP BY " (inlinedColumns questionMark .key groupKeys)) ::
      havingOutline groupFilter ++
      .text (inlinedList " ORDER BY " (orderKeys.map (inlinedKey questionMark))) ::
      windowOutline limit offset := by
  cases source <;> rcases filters with _ | ⟨_, _ | ⟨_, _⟩⟩ <;> cases groupFilter <;> rfl

mutual

/-- The datasets nested in a condition. -/
def Expression.datasets : Expression → List Dataset
  | .comparison _ _ right =>
    match right with
    | some right => right.datasets
    | none => []
  | .group _ operands => operandDatasets operands
  | .negation operands => operandDatasets operands
  | .raw _ _ => []

/-- The datasets nested in conditions, in order. -/
def operandDatasets : List Expression → List Dataset
  | [] => []
  | operand :: rest => operand.datasets ++ operandDatasets rest

/-- The datasets nested in a right-hand side. -/
def Operand.datasets : Operand → List Dataset
  | .single _ => []
  | .list _ => []
  | .subquery dataset => dataset.datasets

/-- The datasets nested in what is selected from. -/
def Source.datasets : Source → List Dataset
  | .table _ _ => []
  | .nested dataset _ => dataset.datasets

/-- The datasets nested in joins, in order. -/
def joinDatasets : List Join → List Dataset
  | [] => []
  | ⟨_, source, condition⟩ :: rest => source.datasets ++ condition.datasets ++ joinDatasets rest

/-- The window of a dataset is written behind all that is in the dataset. -/
def Dataset.datasets : Dataset → List Dataset
  | ⟨projections, source, joins, filters, groupKeys, groupFilter, orderKeys, limit, offset⟩ =>
    (match source with
      | some source => source.datasets
      | none => []) ++
    joinDatasets joins ++ operandDatasets filters ++
    (match groupFilter with
      | some condition => condition.datasets
      | none => []) ++
    [⟨projections, source, joins, filters, groupKeys, groupFilter, orderKeys, limit, offset⟩]

end

/-- The offset of a dataset that has no limit. -/
def Dataset.openOffset? (d : Dataset) : Option UInt64 :=
  if d.limit = none then d.offset else none

/-- A dataset comes last in its own list, as its window is rendered last. -/
theorem datasets_dataset (d : Dataset) :
    d.datasets = d.source.elim [] Source.datasets ++ joinDatasets d.joins ++
      operandDatasets d.filters ++ d.groupFilter.elim [] Expression.datasets ++ [d] := by
  obtain ⟨_, source, _, _, _, groupFilter, _, _, _⟩ := d
  cases source <;> cases groupFilter <;> rfl

/-! ## Writing outlines -/

section Written

variable {dialect : Dialect}

/-- In each dialect a window is written as the dialect wants it. -/
theorem written_windowOutline (limit offset : Option UInt64) :
    written dialect.limitlessPart (windowOutline limit offset) =
      inlinedWindow dialect limit offset := by
  cases limit <;> cases offset <;>
    simp [windowOutline, written, inlinedWindow, Dialect.window?, String.append_assoc]

theorem written_operandOutlines : {es : List Expression} →
    (∀ e ∈ es, written dialect.limitlessPart e.outline = e.inlined questionMark dialect) →
    (operandOutlines es).map (written dialect.limitlessPart) =
      inlinedOperands questionMark dialect es
  | [], _ => rfl
  | e :: rest, ih => by
    obtain ⟨ihe, ihr⟩ := List.forall_mem_cons.mp ih
    rw [operandOutlines, inlinedOperands, List.map_cons, written_operandOutlines ihr, ← ihe]
    cases e.isRaw
    · rfl
    · rw [if_pos rfl, if_pos rfl, written_enclosed]

/-- Joins are written as they are rendered if their parts are. -/
theorem written_joinOutlines : {js : List Join} →
    (∀ j ∈ js,
      written dialect.limitlessPart j.source.outline = j.source.inlined questionMark dialect ∧
      written dialect.limitlessPart j.condition.outline =
        j.condition.inlined questionMark dialect) →
    written dialect.limitlessPart (joinOutlines js) = inlinedJoins questionMark dialect js
  | [], _ => rfl
  | ⟨kind, source, condition⟩ :: rest, ih => by
    obtain ⟨⟨ihs, ihc⟩, ihr⟩ := List.forall_mem_cons.mp ih
    rw [inlinedJoins, ← ihs, ← ihc, ← written_joinOutlines ihr]
    simp [joinOutlines, written, written_append, String.append_assoc]

/-- A source behind its keyword is written as it is rendered. -/
theorem written_fromOutline {source : Option Source}
    (ih : ∀ s, source = some s →
      written dialect.limitlessPart s.outline = s.inlined questionMark dialect) :
    written dialect.limitlessPart (fromOutline source) =
      inlinedFrom questionMark dialect source := by
  cases source with
  | none => rfl
  | some source => rw [fromOutline, inlinedFrom, written, ih source rfl]

/-- Filters are written as they are rendered if each of them is. -/
theorem written_filterOutline {filters : List Expression}
    (ih : ∀ e ∈ filters,
      written dialect.limitlessPart e.outline = e.inlined questionMark dialect) :
    written dialect.limitlessPart (filterOutline filters) =
      inlinedFilters questionMark dialect filters := by
  match filters with
  | [] => rfl
  | [only] => rw [filterOutline, inlinedFilters, written, ih only (by simp)]
  | first :: second :: rest =>
    have hoperands := written_operandOutlines ih
    simp only [filterOutline, inlinedFilters, written, written_enclosed, written_separated,
      hoperands, String.append_assoc]
    rfl

/-- A filter of groups is written as it is rendered. -/
theorem written_havingOutline {groupFilter : Option Expression}
    (ih : ∀ e, groupFilter = some e →
      written dialect.limitlessPart e.outline = e.inlined questionMark dialect) :
    written dialect.limitlessPart (havingOutline groupFilter) =
      inlinedHaving questionMark dialect groupFilter := by
  cases groupFilter with
  | none => rfl
  | some condition => rw [havingOutline, inlinedHaving, written, ih condition rfl]

/-- Whatever is put together of parts that are written as rendered is so itself. -/
theorem hereditary_written (dialect : Dialect) :
    Hereditary
      (fun e => written dialect.limitlessPart e.outline = e.inlined questionMark dialect)
      (fun o => written dialect.limitlessPart o.outline = o.inlined questionMark dialect)
      (fun s => written dialect.limitlessPart s.outline = s.inlined questionMark dialect)
      (fun d => written dialect.limitlessPart d.outline = d.inlined questionMark dialect) where
  comparison op left right ih := by
    cases right with
    | none =>
      cases ht : nullTest? op none <;> cases left <;>
        simp [Expression.outline, Expression.inlined, written, ht]
    | some right =>
      cases ht : nullTest? op (some right) <;> cases left <;>
        simp [Expression.outline, Expression.inlined, written, ht, ih right rfl]
  group connective operands ih := by
    rw [Expression.outline, Expression.inlined, written_enclosed, written_separated,
      written_operandOutlines ih]
  negation operands ih := by
    rcases operands with _ | ⟨operand, _ | ⟨_, _⟩⟩
    · simp [Expression.outline, Expression.inlined, written]
    · rw [Expression.outline, Expression.inlined, ← ih operand (by simp), written]
      cases operand.isGroup
      · rw [if_neg Bool.false_ne_true, if_neg Bool.false_ne_true, written_enclosed]
      · rfl
    · simp [Expression.outline, Expression.inlined, written]
  raw text params := by
    have hparams : ∀ a ∈ params.map questionMark, a = "?" := by simp [questionMark]
    simp [Expression.outline, Expression.inlined, written, Sql.filled_questionMarks hparams]
  single column := by simp [Operand.outline, Operand.inlined, written]
  list columns := by simp [Operand.outline, Operand.inlined, written]
  subquery dataset ih := by rw [Operand.outline, Operand.inlined, written_enclosed, ih]
  table name label := by cases label <;> simp [Source.outline, Source.inlined, written]
  nested dataset label ih := by
    rw [Source.outline, Source.inlined, written_append, written_enclosed, ih]
    simp [written]
  dataset d ihs ihj ihf ihg := by
    obtain ⟨_, source, joins, filters, _, groupFilter, _, limit, offset⟩ := d
    rw [outline_dataset, inlined_dataset, ← written_joinOutlines ihj, ← written_fromOutline ihs,
      ← written_filterOutline ihf, ← written_havingOutline ihg,
      ← written_windowOutline limit offset]
    simp only [written_append, written, List.cons_append, String.append_assoc]

/-- A dataset's outline, written in a dialect, is its text in that dialect. -/
theorem Dataset.written_outline (d : Dataset) :
    written dialect.limitlessPart d.outline = d.inlined questionMark dialect :=
  (hereditary_written dialect).of_dataset d

/-- A condition's outline, written in a dialect, is its text in that dialect. -/
theorem Expression.written_outline (e : Expression) :
    written dialect.limitlessPart e.outline = e.inlined questionMark dialect :=
  (hereditary_written dialect).of_expression e

end Written

/-! ## Offsets of outlines -/

section Offsets

/-- Only an offset without a limit is a piece. -/
theorem offsets_windowOutline (limit offset : Option UInt64) :
    offsets (windowOutline limit offset) = (if limit = none then offset else none).toList := by
  cases limit <;> cases offset <;> rfl

/-- The offsets of operands are those of the datasets in them. -/
theorem offsets_operandOutlines : {es : List Expression} →
    (∀ e ∈ es, offsets e.outline = e.datasets.filterMap Dataset.openOffset?) →
    (operandOutlines es).flatMap offsets = (operandDatasets es).filterMap Dataset.openOffset?
  | [], _ => rfl
  | e :: rest, ih => by
    obtain ⟨ihe, ihr⟩ := List.forall_mem_cons.mp ih
    rw [operandOutlines, operandDatasets, List.flatMap_cons, List.filterMap_append,
      offsets_operandOutlines ihr, ← ihe]
    cases e.isRaw
    · rfl
    · rw [if_pos rfl, offsets_enclosed]

/-- The offsets of joins are those of the datasets in them. -/
theorem offsets_joinOutlines : {js : List Join} →
    (∀ j ∈ js,
      offsets j.source.outline = j.source.datasets.filterMap Dataset.openOffset? ∧
      offsets j.condition.outline = j.condition.datasets.filterMap Dataset.openOffset?) →
    offsets (joinOutlines js) = (joinDatasets js).filterMap Dataset.openOffset?
  | [], _ => rfl
  | ⟨kind, source, condition⟩ :: rest, ih => by
    obtain ⟨⟨ihs, ihc⟩, ihr⟩ := List.forall_mem_cons.mp ih
    rw [joinDatasets, List.filterMap_append, List.filterMap_append, ← ihs, ← ihc,
      ← offsets_joinOutlines ihr]
    simp [joinOutlines, offsets, offsets_append]

theorem offsets_fromOutline {source : Option Source}
    (ih : ∀ s, source = some s →
      offsets s.outline = s.datasets.filterMap Dataset.openOffset?) :
    offsets (fromOutline source) =
      (source.elim [] Source.datasets).filterMap Dataset.openOffset? := by
  cases source with
  | none => rfl
  | some source => exact ih source rfl

theorem offsets_filterOutline {filters : List Expression}
    (ih : ∀ e ∈ filters, offsets e.outline = e.datasets.filterMap Dataset.openOffset?) :
    offsets (filterOutline filters) =
      (operandDatasets filters).filterMap Dataset.openOffset? := by
  match filters with
  | [] => rfl
  | [only] =>
    rw [operandDatasets, operandDatasets, List.append_nil, ← ih only (by simp)]
    rfl
  | first :: second :: rest =>
    rw [← offsets_operandOutlines ih, filterOutline, offsets, offsets_enclosed,
      offsets_separated]
    all_goals simp

theorem offsets_havingOutline {groupFilter : Option Expression}
    (ih : ∀ e, groupFilter = some e →
      offsets e.outline = e.datasets.filterMap Dataset.openOffset?) :
    offsets (havingOutline groupFilter) =
      (groupFilter.elim [] Expression.datasets).filterMap Dataset.openOffset? := by
  cases groupFilter with
  | none => rfl
  | some condition => exact ih condition rfl

/-- In a well-formed query the offset pieces come from the datasets it contains. -/
theorem hereditary_offsets :
    Hereditary
      (fun e => e.WellFormed →
        offsets e.outline = e.datasets.filterMap Dataset.openOffset?)
      (fun o => o.IsCollection →
        offsets o.outline = o.datasets.filterMap Dataset.openOffset?)
      (fun s => s.WellFormed →
        offsets s.outline = s.datasets.filterMap Dataset.openOffset?)
      (fun d => d.WellFormed →
        offsets d.outline = d.datasets.filterMap Dataset.openOffset?) where
  comparison op left right ih h := by
    cases h with
    | nullTest hop hl => cases hop <;> subst op <;> rfl
    | membership hop hl hr =>
      have := ih _ rfl hr
      rcases hop with rfl | rfl <;>
        simpa [Expression.outline, nullTest?, offsets, Expression.datasets]
    | @comparison _ left right hop hl hr =>
      cases ht : nullTest? op (some (.single right)) <;>
        simp [Expression.outline, Expression.datasets, Operand.datasets, ht, offsets,
          Operand.outline]
  group connective operands ih h := by
    cases h with | group hne ho
    rw [Expression.outline, Expression.datasets, offsets_enclosed, offsets_separated,
      offsets_operandOutlines fun e he => ih e he (ho e he)]
  negation operands ih h := by
    cases h with | @negation operand ho
    have hoperand := ih operand (by simp) ho
    rw [Expression.outline, Expression.datasets, operandDatasets, operandDatasets,
      List.append_nil, ← hoperand, offsets]
    cases operand.isGroup
    · exact offsets_enclosed _
    · rfl
  raw text params h := rfl
  -- A column is no collection, so a comparison with one does not need the property of it.
  single column h := nomatch h
  list columns h := rfl
  subquery dataset ih h := by
    cases h with | subquery h
    rw [Operand.outline, offsets_enclosed, ih h, Operand.datasets]
  table name label h := by cases label <;> rfl
  nested dataset label ih h := by
    cases h with | nested h
    rw [Source.outline, offsets_append, offsets_enclosed, ih h, Source.datasets]
    simp [offsets]
  dataset d ihs ihj ihf ihg h := by
    obtain ⟨-, hs, -, hjs, hjc, hf, -, hg, -⟩ := h
    have hjoins := offsets_joinOutlines fun j hj =>
      ⟨(ihj j hj).1 (hjs j hj), (ihj j hj).2 (hjc j hj)⟩
    have hfrom := offsets_fromOutline fun s h => ihs s h (hs s h)
    have hfilters := offsets_filterOutline fun e he => ihf e he (hf e he)
    have hhaving := offsets_havingOutline fun e he => ihg e he (hg e he)
    have hwindow := offsets_windowOutline d.limit d.offset
    obtain ⟨_, source, joins, filters, _, groupFilter, _, limit, offset⟩ := d
    rw [outline_dataset, datasets_dataset]
    simp only [offsets_append, offsets, List.cons_append, List.append_assoc, hfrom, hjoins,
      hfilters, hhaving, hwindow, List.filterMap_append]
    cases limit <;> cases offset <;> rfl

/-- A dataset's offset pieces are the open offsets of the datasets in it, in order. -/
theorem Dataset.offsets_outline (d : Dataset) (h : d.WellFormed) :
    offsets d.outline = d.datasets.filterMap Dataset.openOffset? :=
  hereditary_offsets.of_dataset d h

/-- A condition's offset pieces are the open offsets of the datasets in it. -/
theorem Expression.offsets_outline (e : Expression) (h : e.WellFormed) :
    offsets e.outline = e.datasets.filterMap Dataset.openOffset? :=
  hereditary_offsets.of_expression e h

end Offsets

/-- The outline of a condition behind its keyword. -/
def conditionOutline : Option Expression → List Piece
  | some condition => .text " WHERE " :: condition.outline
  | none => []

/-- The outline of a statement of any kind. -/
def Command.outline : Command → List Piece
  | .selection d => d.outline
  | .insertion i => [.text ((Command.insertion i).inlined questionMark .neutral)]
  | .update ⟨table, assignments, condition⟩ =>
    .text ("UPDATE " ++ table ++ " SET " ++ ", ".intercalate
      (assignments.map fun a => a.1 ++ " = " ++ inlinedLiteral questionMark a.2)) ::
    conditionOutline condition
  | .deletion ⟨table, condition⟩ => .text ("DELETE FROM " ++ table) :: conditionOutline condition

/-- The datasets nested in a statement of any kind. -/
def Command.datasets : Command → List Dataset
  | .selection d => d.datasets
  | .insertion _ => []
  | .update u => u.condition.elim [] Expression.datasets
  | .deletion d => d.condition.elim [] Expression.datasets

theorem written_conditionOutline {dialect : Dialect} (condition : Option Expression) :
    written dialect.limitlessPart (conditionOutline condition) =
      inlinedCondition questionMark dialect condition := by
  cases condition with
  | none => rfl
  | some condition => rw [conditionOutline, inlinedCondition, written, condition.written_outline]

/-- A statement's outline, written in a dialect, is its text in that dialect. -/
theorem Command.written_outline {dialect : Dialect} (c : Command) :
    written dialect.limitlessPart c.outline = c.inlined questionMark dialect := by
  cases c with
  | selection d => exact d.written_outline
  | insertion i =>
    obtain ⟨table, values⟩ := i
    cases values <;> simp [Command.outline, written, Command.inlined]
  | update u => rw [Command.outline, Command.inlined, written, written_conditionOutline]
  | deletion d => rw [Command.outline, Command.inlined, written, written_conditionOutline]

theorem offsets_conditionOutline {condition : Option Expression}
    (h : ∀ e, condition = some e → e.WellFormed) :
    offsets (conditionOutline condition) =
      (condition.elim [] Expression.datasets).filterMap Dataset.openOffset? := by
  cases condition with
  | none => rfl
  | some condition => exact condition.offsets_outline (h condition rfl)

end RowMap
