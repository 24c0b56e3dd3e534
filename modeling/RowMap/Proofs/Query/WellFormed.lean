import RowMap.Proofs.Query.Induction
import RowMap.Proofs.Query.Rendered

/-!
# Well-formed queries

Which trees have SQL. `WellFormed` says it of each kind of node without rendering anything: names
are not empty, an alias stands at the outside of a projection or of a key only, operators have the
right operands they take, and raw texts have as many parameters as placeholders. A dataset is
compiled exactly if it is well formed, in every dialect (`Dataset.compile_ok_iff`).
-/

namespace RowMap

/-- A column that may stand at a position. Only an alias depends on the position: it is declared
once, around the whole of a projection, and a key refers to it by its name, whatever it is declared
for. -/
inductive Column.Fits : Position → Column → Prop
  | reference {position : Position} {table : Option String} {name : String} (h : name ≠ "") :
    Fits position (.reference table name)
  | call {position : Position} {function : String} {arguments : List Column} (h : function ≠ "")
    (ha : ∀ c ∈ arguments, Fits .nested c) : Fits position (.call function arguments)
  | literal {position : Position} (value : Value) : Fits position (.literal value)
  | declared {inner : Column} (h : Fits .nested inner) (label : String) :
    Fits .projection (.aliased inner label)
  | referred (inner : Column) (label : String) : Fits .key (.aliased inner label)

/-! ## Conditions, sources and datasets -/

mutual

/-- Conditions that can be rendered, by the operator and what it is compared with. -/
inductive Expression.WellFormed : Expression → Prop
  | nullTest {op : Comparison} {left : Column} (hop : op = .isNull ∨ op = .isNotNull)
    (hl : left.Fits .nested) : Expression.WellFormed (.comparison op (some left) none)
  | membership {op : Comparison} {left : Column} {right : Operand}
    (hop : op = .isIn ∨ op = .notIn) (hl : left.Fits .nested) (hr : Operand.IsCollection right) :
    Expression.WellFormed (.comparison op (some left) (some right))
  | comparison {op : Comparison} {left right : Column}
    (hop : op ∉ [.isNull, .isNotNull, .isIn, .notIn]) (hl : left.Fits .nested)
    (hr : right.Fits .nested) :
    Expression.WellFormed (.comparison op (some left) (some (.single right)))
  | group {connective : Connective} {operands : List Expression} (hne : operands ≠ [])
    (ho : ∀ e ∈ operands, Expression.WellFormed e) :
    Expression.WellFormed (.group connective operands)
  | negation {operand : Expression} (ho : Expression.WellFormed operand) :
    Expression.WellFormed (.negation [operand])
  | raw {text : String} {params : List Value} (h : Sql.placeholders text = params.length) :
    Expression.WellFormed (.raw text params)

/-- What a value can be a member of. -/
inductive Operand.IsCollection : Operand → Prop
  | list {columns : List Column} (hne : columns ≠ []) (h : ∀ c ∈ columns, c.Fits .nested) :
    Operand.IsCollection (.list columns)
  | subquery {dataset : Dataset} (h : Dataset.WellFormed dataset) :
    Operand.IsCollection (.subquery dataset)

/-- Sources that can be rendered: a table has a name, a nested dataset is well-formed. -/
inductive Source.WellFormed : Source → Prop
  | table {name : String} (h : name ≠ "") (label : Option String) :
    Source.WellFormed (.table name label)
  | nested {dataset : Dataset} (h : Dataset.WellFormed dataset) (label : String) :
    Source.WellFormed (.nested dataset label)

/-- Every clause is well formed, and there are no joins without a source. -/
inductive Dataset.WellFormed : Dataset → Prop
  | intro {d : Dataset} (projections : ∀ c ∈ d.projections, c.Fits .projection)
    (source : ∀ s, d.source = some s → Source.WellFormed s)
    (joinsNeedSource : d.joins ≠ [] → d.source ≠ none)
    (joinSources : ∀ j ∈ d.joins, Source.WellFormed j.source)
    (joinConditions : ∀ j ∈ d.joins, Expression.WellFormed j.condition)
    (filters : ∀ e ∈ d.filters, Expression.WellFormed e)
    (groupKeys : ∀ c ∈ d.groupKeys, c.Fits .key)
    (groupFilter : ∀ e, d.groupFilter = some e → Expression.WellFormed e)
    (orderKeys : ∀ k ∈ d.orderKeys, k.key.Fits .key) : Dataset.WellFormed d

end

mutual

/-- A column renders where it fits, and only there. -/
theorem Column.exists_render {position : Position} :
    (c : Column) → ((∃ f, c.render position = .ok f) ↔ c.Fits position)
  | .reference table name => by
    simp only [render_reference_eq_ok, exists_and_left, exists_eq', and_true]
    exact ⟨.reference, fun | .reference h => h⟩
  | .call function arguments => by
    have harguments : (∃ fs, renderColumns .nested arguments = .ok fs) ↔ _ :=
      exists_renderColumns arguments
    constructor
    · rintro ⟨_, h⟩
      obtain ⟨hne, fs, hfs, -⟩ := render_call_eq_ok.mp h
      exact .call hne (harguments.mp ⟨fs, hfs⟩)
    · intro h
      cases h with | call hne ha
      obtain ⟨fs, hfs⟩ := harguments.mpr ha
      exact ⟨_, render_call_eq_ok.mpr ⟨hne, fs, hfs, rfl⟩⟩
  | .literal value => by
    simp only [render_literal_eq_ok, exists_eq', true_iff]
    exact .literal value
  | .aliased inner label => by
    have hinner : (∃ f, inner.render .nested = .ok f) ↔ _ := inner.exists_render
    constructor
    · rintro ⟨_, h⟩
      rcases render_aliased_eq_ok.mp h with ⟨rfl, g, hg, -⟩ | ⟨rfl, -⟩
      · exact .declared (hinner.mp ⟨g, hg⟩) label
      · exact .referred inner label
    · intro h
      cases h with
      | declared h =>
        obtain ⟨g, hg⟩ := hinner.mpr h
        exact ⟨_, render_aliased_eq_ok.mpr (.inl ⟨rfl, g, hg, rfl⟩)⟩
      | referred => exact ⟨_, render_aliased_eq_ok.mpr (.inr ⟨rfl, rfl⟩)⟩

/-- Columns render together if each of them fits. -/
theorem exists_renderColumns {position : Position} : (cs : List Column) →
    ((∃ fs, renderColumns position cs = .ok fs) ↔ ∀ c ∈ cs, c.Fits position)
  | [] => by simp [renderColumns]
  | c :: rest => by
    rw [List.forall_mem_cons, ← c.exists_render, ← exists_renderColumns rest, renderColumns]
    refine exists_bind_iff fun _ => ?_
    rw [exists_bind_iff fun _ => exists_pure_iff, and_true]

end

/-! ## Rendering conditions, sources and datasets -/

section Nodes

variable {dialect : Dialect}

theorem isUnary_iff {op : Comparison} : op.isUnary = true ↔ op = .isNull ∨ op = .isNotNull := by
  cases op <;> decide

theorem isMembership_iff {op : Comparison} :
    op.isMembership = true ↔ op = .isIn ∨ op = .notIn := by
  cases op <;> decide

/-- All other operators take a single right-hand side. -/
theorem isBinary_iff {op : Comparison} : op ∉ [.isNull, .isNotNull, .isIn, .notIn] ↔
    op.isUnary = false ∧ op.isMembership = false := by
  cases op <;> decide

/-- A comparison that is replaced by a test for null is one for equality with a literal. -/
theorem of_nullTest? {op test : Comparison} {right : Option Operand}
    (h : nullTest? op right = some test) : op ∉ [.isNull, .isNotNull, .isIn, .notIn] ∧
      ∃ value, right = some (.single (.literal value)) := by
  have isLiteral : ∀ {c : Column}, c.isNullLiteral = true → ∃ value, c = .literal value := by
    intro c hc
    cases c with
    | literal value => exact ⟨value, rfl⟩
    | _ => cases hc
  unfold nullTest? at h
  split at h
  case h_3 => cases h
  all_goals
    split at h
    · obtain ⟨value, rfl⟩ := isLiteral ‹_›
      exact ⟨by decide, value, rfl⟩
    · cases h

/-- A comparison has SQL if its operands have. -/
theorem exists_render_binary {op : Comparison} (hu : op.isUnary = false) {left : Column}
    (hl : left.Fits .nested) {right : Operand} (hr : ∃ f, right.render dialect op = .ok f) :
    ∃ f, (Expression.comparison op (some left) (some right)).render dialect = .ok f := by
  obtain ⟨g, hg⟩ := left.exists_render.mpr hl
  obtain ⟨h, hh⟩ := hr
  cases ht : nullTest? op (some right) with
  | some test => exact ⟨_, render_comparison_eq_ok.mpr ⟨left, g, rfl, hg, .inl ⟨test, ht, rfl⟩⟩⟩
  | none =>
    exact ⟨_, render_comparison_eq_ok.mpr
      ⟨left, g, rfl, hg, .inr (.inr ⟨ht, hu, right, h, rfl, hh, rfl⟩)⟩⟩

/-- An operand has SQL if the operator takes it. -/
def Operand.Compiles (dialect : Dialect) (o : Operand) : Prop :=
  ∀ op, (∃ f, o.render dialect op = .ok f) ↔
    (op.isMembership = true ∧ o.IsCollection) ∨
    (op.isMembership = false ∧ ∃ c, o = .single c ∧ c.Fits .nested)

/-- A comparison renders if it is well-formed, given the same for its right-hand side. -/
theorem comparison_compiles {op : Comparison} {left : Option Column} {right : Option Operand}
    (ih : ∀ o, right = some o → o.Compiles dialect) :
    (∃ f, (Expression.comparison op left right).render dialect = .ok f) ↔
      (Expression.comparison op left right).WellFormed := by
  constructor
  · rintro ⟨f, hf⟩
    obtain ⟨column, g, rfl, hg, hop⟩ := render_comparison_eq_ok.mp hf
    have hleft : column.Fits .nested := column.exists_render.mp ⟨g, hg⟩
    rcases hop with ⟨test, ht, -⟩ | ⟨-, hu, rfl, -⟩ | ⟨-, hu, operand, k, rfl, hk, -⟩
    · obtain ⟨hop, value, rfl⟩ := of_nullTest? ht
      exact .comparison hop hleft (.literal value)
    · exact .nullTest (isUnary_iff.mp hu) hleft
    · rcases (ih operand rfl op).mp ⟨k, hk⟩ with ⟨hm, hr⟩ | ⟨hm, right, rfl, hr⟩
      · exact .membership (isMembership_iff.mp hm) hleft hr
      · exact .comparison (isBinary_iff.mpr ⟨hu, hm⟩) hleft hr
  · intro h
    cases h with
    | @nullTest _ column hop hl =>
      obtain ⟨g, hg⟩ := column.exists_render.mpr hl
      have ht : nullTest? op none = none := by cases op <;> rfl
      exact ⟨_, render_comparison_eq_ok.mpr
        ⟨column, g, rfl, hg, .inr (.inl ⟨ht, isUnary_iff.mpr hop, rfl, rfl⟩)⟩⟩
    | membership hop hl hr =>
      have hm : op.isMembership = true := isMembership_iff.mpr hop
      have hu : op.isUnary = false := by rcases hop with rfl | rfl <;> rfl
      exact exists_render_binary hu hl ((ih _ rfl op).mpr (.inl ⟨hm, hr⟩))
    | comparison hop hl hr =>
      obtain ⟨hu, hm⟩ := isBinary_iff.mp hop
      exact exists_render_binary hu hl ((ih _ rfl op).mpr (.inr ⟨hm, _, rfl, hr⟩))

/-- Operands render together if each of them does alone. -/
theorem exists_renderOperands : {es : List Expression} →
    (∀ e ∈ es, (∃ f, e.render dialect = .ok f) ↔ e.WellFormed) →
    ((∃ fs, renderOperands dialect es = .ok fs) ↔ ∀ e ∈ es, e.WellFormed)
  | [], _ => by simp [renderOperands]
  | e :: rest, ih => by
    obtain ⟨ihe, ihr⟩ := List.forall_mem_cons.mp ih
    rw [List.forall_mem_cons, ← ihe, ← exists_renderOperands ihr, renderOperands]
    refine exists_bind_iff fun _ => ?_
    rw [exists_bind_iff fun _ => exists_pure_iff, and_true]

/-- A group renders if it has operands and all of them are well-formed. -/
theorem group_compiles {connective : Connective} {operands : List Expression}
    (ih : ∀ e ∈ operands, (∃ f, e.render dialect = .ok f) ↔ e.WellFormed) :
    (∃ f, (Expression.group connective operands).render dialect = .ok f) ↔
      (Expression.group connective operands).WellFormed := by
  constructor
  · rintro ⟨f, hf⟩
    obtain ⟨hne, fs, hfs, -⟩ := render_group_eq_ok.mp hf
    exact .group hne ((exists_renderOperands ih).mp ⟨fs, hfs⟩)
  · intro h
    cases h with | group hne ho
    obtain ⟨fs, hfs⟩ := (exists_renderOperands ih).mpr ho
    exact ⟨_, render_group_eq_ok.mpr ⟨hne, fs, hfs, rfl⟩⟩

/-- A negation renders if it has one operand and this one is well-formed. -/
theorem negation_compiles {operands : List Expression}
    (ih : ∀ e ∈ operands, (∃ f, e.render dialect = .ok f) ↔ e.WellFormed) :
    (∃ f, (Expression.negation operands).render dialect = .ok f) ↔
      (Expression.negation operands).WellFormed := by
  constructor
  · rintro ⟨f, hf⟩
    obtain ⟨operand, g, rfl, hg, -⟩ := render_negation_eq_ok.mp hf
    exact .negation ((ih operand (by simp)).mp ⟨g, hg⟩)
  · intro h
    cases h with | @negation operand ho
    obtain ⟨g, hg⟩ := (ih operand (by simp)).mpr ho
    exact ⟨_, render_negation_eq_ok.mpr ⟨operand, g, rfl, hg, rfl⟩⟩

/-- A raw text renders if it has as many placeholders as parameters. -/
theorem raw_compiles {text : String} {params : List Value} :
    (∃ f, (Expression.raw text params).render dialect = .ok f) ↔
      (Expression.raw text params).WellFormed := by
  simp only [render_raw_eq_ok, exists_and_left, exists_eq', and_true]
  exact ⟨.raw, fun | .raw h => h⟩

/-- A column is a right-hand side for operators that take a single one. -/
theorem single_compiles (column : Column) : (Operand.single column).Compiles dialect := by
  intro op
  simp only [render_single_eq_ok, exists_and_left, column.exists_render]
  constructor
  · rintro ⟨hm, hc⟩
    exact .inr ⟨hm, column, rfl, hc⟩
  · rintro (⟨-, ⟨⟩⟩ | ⟨hm, c, ⟨⟩, hc⟩)
    exact ⟨hm, hc⟩

/-- A list is a right-hand side for operators that take several values. -/
theorem list_compiles (columns : List Column) : (Operand.list columns).Compiles dialect := by
  intro op
  constructor
  · rintro ⟨f, hf⟩
    obtain ⟨hm, hne, fs, hfs, -⟩ := render_list_eq_ok.mp hf
    exact .inl ⟨hm, .list hne ((exists_renderColumns columns).mp ⟨fs, hfs⟩)⟩
  · rintro (⟨hm, h⟩ | ⟨-, c, ⟨⟩, -⟩)
    cases h with | list hne h
    obtain ⟨fs, hfs⟩ := (exists_renderColumns columns).mpr h
    exact ⟨_, render_list_eq_ok.mpr ⟨hm, hne, fs, hfs, rfl⟩⟩

/-- A dataset is a right-hand side for operators that take several values. -/
theorem subquery_compiles {dataset : Dataset}
    (ih : (∃ f, dataset.render dialect = .ok f) ↔ dataset.WellFormed) :
    (Operand.subquery dataset).Compiles dialect := by
  intro op
  constructor
  · rintro ⟨f, hf⟩
    obtain ⟨hm, g, hg, -⟩ := render_subquery_eq_ok.mp hf
    exact .inl ⟨hm, .subquery (ih.mp ⟨g, hg⟩)⟩
  · rintro (⟨hm, h⟩ | ⟨-, c, ⟨⟩, -⟩)
    cases h with | subquery h
    obtain ⟨g, hg⟩ := ih.mpr h
    exact ⟨_, render_subquery_eq_ok.mpr ⟨hm, g, hg, rfl⟩⟩

/-- A table renders if it has a name. -/
theorem table_compiles {name : String} {label : Option String} :
    (∃ f, (Source.table name label).render dialect = .ok f) ↔
      (Source.table name label).WellFormed := by
  simp only [render_table_eq_ok, exists_and_left, exists_eq', and_true]
  exact ⟨fun h => .table h label, fun | .table h _ => h⟩

/-- A nested dataset renders if the dataset does. -/
theorem nested_compiles {dataset : Dataset} {label : String}
    (ih : (∃ f, dataset.render dialect = .ok f) ↔ dataset.WellFormed) :
    (∃ f, (Source.nested dataset label).render dialect = .ok f) ↔
      (Source.nested dataset label).WellFormed := by
  rw [Source.render, exists_bind_iff fun _ => exists_pure_iff, and_true, ih]
  refine ⟨fun h => .nested h label, fun h => ?_⟩
  cases h with | nested h
  exact h

/-- The source clause renders, unless there are joins without a source. -/
theorem exists_fromClause {source : Option Source} {joins : List Join}
    (ih : ∀ s, source = some s → ((∃ f, s.render dialect = .ok f) ↔ s.WellFormed)) :
    (∃ f, fromClause dialect joins source = .ok f) ↔
      (∀ s, source = some s → s.WellFormed) ∧ (joins ≠ [] → source ≠ none) := by
  cases source with
  | none => cases joins <;> simp [fromClause]
  | some source =>
    rw [fromClause, exists_map_iff, ih source rfl]
    simp

/-- Joins render together if each source and each condition does. -/
theorem exists_renderJoins : {js : List Join} →
    (∀ j ∈ js, ((∃ f, j.source.render dialect = .ok f) ↔ j.source.WellFormed) ∧
      ((∃ f, j.condition.render dialect = .ok f) ↔ j.condition.WellFormed)) →
    ((∃ f, renderJoins dialect js = .ok f) ↔
      ∀ j ∈ js, j.source.WellFormed ∧ j.condition.WellFormed)
  | [], _ => by simp [renderJoins]
  | ⟨kind, source, condition⟩ :: rest, ih => by
    obtain ⟨⟨ihs, ihc⟩, ihr⟩ := List.forall_mem_cons.mp ih
    rw [List.forall_mem_cons, ← ihs, ← ihc, ← exists_renderJoins ihr, renderJoins, and_assoc]
    refine exists_bind_iff fun _ => exists_bind_iff fun _ => ?_
    rw [exists_bind_iff fun _ => exists_pure_iff, and_true]

/-- The filters render together if each of them does alone. -/
theorem exists_filterClause {filters : List Expression}
    (ih : ∀ e ∈ filters, (∃ f, e.render dialect = .ok f) ↔ e.WellFormed) :
    (∃ f, filterClause dialect filters = .ok f) ↔ ∀ e ∈ filters, e.WellFormed := by
  match filters with
  | [] => simp [filterClause]
  | [only] =>
    rw [filterClause, exists_map_iff, ih only (by simp)]
    simp
  | first :: second :: rest =>
    rw [filterClause, exists_map_iff, exists_renderOperands ih] <;> simp

/-- A missing filter of groups renders, too. -/
theorem exists_havingClause {groupFilter : Option Expression}
    (ih : ∀ e, groupFilter = some e → ((∃ f, e.render dialect = .ok f) ↔ e.WellFormed)) :
    (∃ f, havingClause dialect groupFilter = .ok f) ↔
      ∀ e, groupFilter = some e → e.WellFormed := by
  cases groupFilter with
  | none => simp [havingClause]
  | some condition =>
    rw [havingClause, exists_map_iff, ih condition rfl]
    simp

/-- Keys of an ordering render together if each of them fits. -/
theorem exists_renderKeys : (ks : List OrderKey) →
    ((∃ fs, ks.mapM OrderKey.render = .ok fs) ↔ ∀ k ∈ ks, k.key.Fits .key)
  | [] => by simp [pure_eq_ok]
  | k :: rest => by
    have first : (∃ f, k.render = .ok f) ↔ k.key.Fits .key := by
      rw [OrderKey.render, exists_bind_iff fun _ => exists_pure_iff, and_true,
        k.key.exists_render]
    rw [List.forall_mem_cons, ← first, ← exists_renderKeys rest, List.mapM_cons]
    refine exists_bind_iff fun _ => ?_
    rw [exists_bind_iff fun _ => exists_pure_iff, and_true]

/-- A dataset renders if it is well-formed, given the same for its parts. -/
theorem dataset_compiles {d : Dataset}
    (ihSource : ∀ s, d.source = some s → ((∃ f, s.render dialect = .ok f) ↔ s.WellFormed))
    (ihJoins : ∀ j ∈ d.joins, ((∃ f, j.source.render dialect = .ok f) ↔ j.source.WellFormed) ∧
      ((∃ f, j.condition.render dialect = .ok f) ↔ j.condition.WellFormed))
    (ihFilters : ∀ e ∈ d.filters, (∃ f, e.render dialect = .ok f) ↔ e.WellFormed)
    (ihGroupFilter : ∀ e, d.groupFilter = some e →
      ((∃ f, e.render dialect = .ok f) ↔ e.WellFormed)) :
    (∃ f, d.render dialect = .ok f) ↔ d.WellFormed := by
  obtain
    ⟨projections, source, joins, filters, groupKeys, groupFilter, orderKeys, limit, offset⟩ := d
  have clauses : (∃ f, Dataset.render dialect ⟨projections, source, joins, filters, groupKeys,
      groupFilter, orderKeys, limit, offset⟩ = .ok f) ↔
      (∃ fs, renderColumns .projection projections = .ok fs) ∧
      (∃ f, fromClause dialect joins source = .ok f) ∧ (∃ f, renderJoins dialect joins = .ok f) ∧
      (∃ f, filterClause dialect filters = .ok f) ∧
      (∃ fs, renderColumns .key groupKeys = .ok fs) ∧
      (∃ f, havingClause dialect groupFilter = .ok f) ∧
      (∃ fs, orderKeys.mapM OrderKey.render = .ok fs) := by
    rw [render_dataset]
    refine exists_bind_iff fun _ => exists_bind_iff fun _ => exists_bind_iff fun _ =>
      exists_bind_iff fun _ => exists_bind_iff fun _ => exists_bind_iff fun _ => ?_
    rw [exists_bind_iff fun _ => exists_pure_iff, and_true]
  rw [clauses, exists_renderColumns, exists_fromClause ihSource, exists_renderJoins ihJoins,
    exists_filterClause ihFilters, exists_renderColumns, exists_havingClause ihGroupFilter,
    exists_renderKeys]
  constructor
  · rintro ⟨hp, ⟨hs, hjs⟩, hj, hf, hg, hh, ho⟩
    exact .intro hp hs hjs (fun j h => (hj j h).1) (fun j h => (hj j h).2) hf hg hh ho
  · rintro ⟨hp, hs, hjs, hj, hc, hf, hg, hh, ho⟩
    exact ⟨hp, ⟨hs, hjs⟩, fun j h => ⟨hj j h, hc j h⟩, hf, hg, hh, ho⟩

/-- To render is to be well-formed, whatever a query is put together of. -/
theorem hereditary_compiles (dialect : Dialect) :
    Hereditary (fun e => (∃ f, e.render dialect = .ok f) ↔ e.WellFormed)
      (Operand.Compiles dialect) (fun s => (∃ f, s.render dialect = .ok f) ↔ s.WellFormed)
      (fun d => (∃ f, d.render dialect = .ok f) ↔ d.WellFormed) where
  comparison _ _ _ := comparison_compiles
  group _ _ := group_compiles
  negation _ := negation_compiles
  raw _ _ := raw_compiles
  single := single_compiles
  list := list_compiles
  subquery _ := subquery_compiles
  table _ _ := table_compiles
  nested _ _ := nested_compiles
  dataset _ := dataset_compiles

end Nodes

/-- In every dialect a dataset has a statement exactly if it is well formed, and a fault
otherwise. -/
theorem Dataset.compile_ok_iff (d : Dataset) (dialect : Dialect) :
    ((∃ s, d.compile dialect = .ok s) ↔ d.WellFormed) ∧
      (¬d.WellFormed → ∃ fault, d.compile dialect = .error fault) := by
  have compiles : (∃ s, d.compile dialect = .ok s) ↔ d.WellFormed :=
    exists_map_iff.trans ((hereditary_compiles dialect).of_dataset d)
  refine ⟨compiles, fun h => ?_⟩
  cases hc : d.compile dialect with
  | ok s => exact absurd (compiles.mp ⟨s, hc⟩) h
  | error fault => exact ⟨fault, rfl⟩

end RowMap
