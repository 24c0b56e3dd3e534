import Mathlib.Data.List.Forall2
import RowMap.Proofs.Query.Induction
import RowMap.Proofs.Query.Inlined
import RowMap.Proofs.Query.Rendered

/-!
# How renderings are put together

`Assembled` relates a fragment to a text if both are put together in the same way from the same
parts: inert texts, names and raw texts of the caller, values, and pairs of parentheses. Whatever is
rendered is related to the query with its values in the text (`Dataset.assembled`, and
`Command.assembled` for statements of any kind), so a property of renderings that holds of the parts
and is kept by concatenation holds of every rendering.
-/

namespace RowMap

open Fragment (text joined parenthesized)
open Sql (Inert)

/-- The fragment and the text consist of the same parts, in the same order. -/
inductive Assembled (print : Value → String) (Name Raw : String → Prop) :
    Fragment → String → Prop
  | inert {s : String} (h : Inert s) : Assembled print Name Raw (text s) s
  | name {s : String} (h : Name s) : Assembled print Name Raw (text s) s
  | bound (value : Value) : Assembled print Name Raw (Fragment.bound value) (print value)
  | raw {s : String} {params : List Value} (h : Raw s)
    (hn : Sql.placeholders s = params.length) :
    Assembled print Name Raw ⟨s, params⟩ (Sql.filled (params.map print) s)
  | append {f g : Fragment} {s t : String} (hf : Assembled print Name Raw f s)
    (hg : Assembled print Name Raw g t) : Assembled print Name Raw (f ++ g) (s ++ t)
  | parenthesized {f : Fragment} {s : String} (hf : Assembled print Name Raw f s) :
    Assembled print Name Raw f.parenthesized ("(" ++ s ++ ")")

namespace Assembled

variable {print : Value → String} {Name Raw : String → Prop} {f : Fragment} {s : String}

/-- Two texts without values, one behind the other, are assembled as one text. -/
theorem text_append {a b s t : String} (ha : Assembled print Name Raw (text a) s)
    (hb : Assembled print Name Raw (text b) t) :
    Assembled print Name Raw (text (a ++ b)) (s ++ t) :=
  ha.append hb

theorem empty : Assembled print Name Raw Fragment.empty "" :=
  .inert (s := "") (by decide)

/-- A literal is the keyword for null or a bound value. -/
theorem literal (value : Value) :
    Assembled print Name Raw (Fragment.literal value) (inlinedLiteral print value) := by
  cases value with
  | null => exact .inert (by decide)
  | _ => exact .bound _

/-- Assembled fragments with an inert separator between them. -/
theorem joined {separator : String} (hs : Inert separator) {fs : List Fragment}
    {ss : List String} (h : List.Forall₂ (Assembled print Name Raw) fs ss) :
    Assembled print Name Raw (Fragment.joined separator fs) (separator.intercalate ss) := by
  induction h with
  | nil => exact empty
  | cons h rest ih =>
    cases rest with
    | nil =>
      rw [String.intercalate_singleton]
      exact h
    | cons =>
      rw [String.intercalate_cons_cons]
      exact (h.append (.inert hs)).append ih

/-- An assembled fragment behind a keyword. -/
theorem clause {keyword : String} (hk : Inert keyword) (h : Assembled print Name Raw f s) :
    Assembled print Name Raw (RowMap.clause keyword f) (" " ++ keyword ++ " " ++ s) :=
  Assembled.append (.inert (((by decide : Inert " ").append hk).append (by decide))) h

/-- A list of assembled fragments behind a keyword; the empty list leaves no clause. -/
theorem listClause {keyword : String} (hk : Inert keyword) {fs : List Fragment}
    {ss : List String} (h : List.Forall₂ (Assembled print Name Raw) fs ss) :
    Assembled print Name Raw (RowMap.listClause keyword fs)
      (inlinedList (" " ++ keyword ++ " ") ss) := by
  cases h with
  | nil => exact empty
  | cons h rest => exact clause hk (joined (by decide) (.cons h rest))

/-- A list of assembled projections; the empty list is an asterisk. -/
theorem projectionList {fs : List Fragment} {ss : List String}
    (h : List.Forall₂ (Assembled print Name Raw) fs ss) :
    Assembled print Name Raw (RowMap.projectionList fs) (inlinedProjections ss) := by
  cases h with
  | nil => exact .inert (by decide)
  | cons h rest => exact joined (by decide) (.cons h rest)

/-- Assembled operands in parentheses, their connective between them. -/
theorem groupOf (connective : Connective) {fs : List Fragment} {ss : List String}
    (h : List.Forall₂ (Assembled print Name Raw) fs ss) :
    Assembled print Name Raw (RowMap.groupOf connective fs)
      ("(" ++ (" " ++ connective.sql ++ " ").intercalate ss ++ ")") :=
  .parenthesized (joined (by cases connective <;> decide) h)

end Assembled

section Assembly

variable {print : Value → String} {Name Raw : String → Prop}

attribute [local simp] Column.callerTexts Column.inlined Source.callerTexts Source.inlined
  Expression.callerTexts operandTexts Expression.inlined Operand.inlined

/-- A column name, with or without its table. -/
theorem qualified_assembled {table : Option String} {name : String}
    (h : ∀ x ∈ (Column.reference table name).callerTexts, x.Meets Name Raw) :
    Assembled print Name Raw (text (qualified table name)) (qualified table name) := by
  cases table with
  | none => exact .name (h (.name name) (by simp))
  | some table =>
    have ht : Name table := h (.name table) (by simp)
    have hn : Name name := h (.name name) (by simp)
    exact ((Assembled.name ht).text_append (.inert (s := ".") (by decide))).text_append (.name hn)

mutual

/-- A rendered column is assembled of its names and values. -/
theorem Column.assembled {position : Position} : (c : Column) →
    (∀ x ∈ c.callerTexts, x.Meets Name Raw) → {f : Fragment} → c.render position = .ok f →
    Assembled print Name Raw f (c.inlined print position)
  | .reference table name, h, f, hf => by
    obtain ⟨-, rfl⟩ := render_reference_eq_ok.mp hf
    rw [Column.inlined]
    exact qualified_assembled h
  | .call function arguments, h, f, hf => by
    obtain ⟨-, fs, hfs, rfl⟩ := render_call_eq_ok.mp hf
    obtain ⟨hn, ha⟩ := List.forall_mem_cons.mp h
    have := Assembled.joined (by decide : Inert ", ") (columns_assembled arguments ha hfs)
    simpa only [Column.inlined, String.append_assoc] using
      (Assembled.name hn).append this.parenthesized
  | .literal value, _, f, hf => by
    obtain rfl := render_literal_eq_ok.mp hf
    rw [Column.inlined]
    exact .literal value
  | .aliased inner label, h, f, hf => by
    obtain ⟨hn, hi⟩ := List.forall_mem_cons.mp h
    rcases render_aliased_eq_ok.mp hf with ⟨rfl, g, hg, rfl⟩ | ⟨rfl, rfl⟩
    · rw [Column.inlined, String.append_assoc]
      exact (inner.assembled hi hg).append
        ((Assembled.inert (s := " AS ") (by decide)).text_append (.name hn))
    · rw [Column.inlined]
      · exact .name hn
      · simp

/-- Rendered columns are assembled one by one. -/
theorem columns_assembled {position : Position} : (cs : List Column) →
    (∀ x ∈ columnTexts cs, x.Meets Name Raw) → {fs : List Fragment} →
    renderColumns position cs = .ok fs →
    List.Forall₂ (Assembled print Name Raw) fs (inlinedColumns print position cs)
  | [], _, fs, hfs => by
    obtain rfl : [] = fs := by simpa [renderColumns] using hfs
    exact .nil
  | c :: rest, h, fs, hfs => by
    obtain ⟨f, hf, gs, hgs, rfl⟩ := renderColumns_cons_eq_ok.mp hfs
    obtain ⟨hc, hr⟩ := List.forall_mem_append.mp h
    exact .cons (c.assembled hc hf) (columns_assembled rest hr hgs)

end

/-- Rendered keys of an ordering are assembled one by one. -/
theorem keys_assembled : (ks : List OrderKey) →
    (∀ x ∈ columnTexts (ks.map OrderKey.key), x.Meets Name Raw) → {fs : List Fragment} →
    ks.mapM OrderKey.render = .ok fs →
    List.Forall₂ (Assembled print Name Raw) fs (ks.map (inlinedKey print))
  | [], _, fs, hfs => by
    obtain rfl : [] = fs := by simpa [pure_eq_ok] using hfs
    exact .nil
  | k :: rest, h, fs, hfs => by
    simp only [List.mapM_cons, bind_eq_ok, pure_eq_ok, render_orderKey_eq_ok] at hfs
    obtain ⟨_, ⟨g, hg, rfl⟩, gs, hgs, rfl⟩ := hfs
    obtain ⟨hk, hr⟩ := List.forall_mem_append.mp h
    refine .cons ((k.key.assembled hk hg).append ?_) (keys_assembled rest hr hgs)
    exact .inert (by cases k.descending <;> decide)

/-- A number in digits is inert. -/
theorem inert_digits (n : Nat) : Inert (Decimal.text n) := by
  intro c hc
  rw [Decimal.text, String.toList_ofList] at hc
  have := Decimal.isDigit_of_mem_digits hc
  simp only [Decimal.isDigit, Bool.and_eq_true, decide_eq_true_eq] at this
  have hne : ∀ d : Char, d.toNat < 48 ∨ 57 < d.toNat → c ≠ d := by
    rintro d hd rfl
    omega
  simp [Sql.isInert, Sql.isBare, Sql.isQuote, hne]

/-- The window of every dialect is inert. -/
theorem inert_window {dialect : Dialect} {limit offset : Option UInt64} {w : String}
    (h : dialect.window? limit offset = some w) : Inert w := by
  have hl : Inert dialect.limitlessPart := by cases dialect <;> decide
  have hLimit : Inert "LIMIT " := by decide
  have hOffset : Inert "OFFSET " := by decide
  have hBoth : Inert " OFFSET " := by decide
  cases limit <;> cases offset <;> cases h
  · exact (hl.append hOffset).append (inert_digits _)
  · exact hLimit.append (inert_digits _)
  · exact ((hLimit.append (inert_digits _)).append hBoth).append (inert_digits _)

/-- A window is inert, so it has no values. -/
theorem window_assembled {dialect : Dialect} (limit offset : Option UInt64) :
    Assembled print Name Raw (windowClause dialect limit offset)
      (inlinedWindow dialect limit offset) := by
  unfold windowClause inlinedWindow
  cases hw : dialect.window? limit offset with
  | some w => exact .inert ((by decide : Inert " ").append (inert_window hw))
  | none => exact .empty

section Nodes

variable (print Name Raw) (dialect : Dialect)

/-- Whatever the condition renders to is assembled to its inlined text. -/
def Expression.IsAssembled (e : Expression) : Prop :=
  (∀ x ∈ e.callerTexts, x.Meets Name Raw) → ∀ {f}, e.render dialect = .ok f →
    Assembled print Name Raw f (e.inlined print dialect)

/-- Whatever the right-hand side renders to is assembled to its inlined text. -/
def Operand.IsAssembled (o : Operand) : Prop :=
  (∀ x ∈ o.callerTexts, x.Meets Name Raw) → ∀ {op f}, o.render dialect op = .ok f →
    Assembled print Name Raw f (o.inlined print dialect)

/-- Whatever the source renders to is assembled to its inlined text. -/
def Source.IsAssembled (s : Source) : Prop :=
  (∀ x ∈ s.callerTexts, x.Meets Name Raw) → ∀ {f}, s.render dialect = .ok f →
    Assembled print Name Raw f (s.inlined print dialect)

/-- Whatever the dataset renders to is assembled to its inlined text. -/
def Dataset.IsAssembled (d : Dataset) : Prop :=
  (∀ x ∈ d.callerTexts, x.Meets Name Raw) → ∀ {f}, d.render dialect = .ok f →
    Assembled print Name Raw f (d.inlined print dialect)

end Nodes

variable {dialect : Dialect}

/-- A comparison is assembled if its right-hand side is. -/
theorem comparison_assembled {op : Comparison} {left : Option Column} {right : Option Operand}
    (ih : ∀ o, right = some o → o.IsAssembled print Name Raw dialect) :
    (Expression.comparison op left right).IsAssembled print Name Raw dialect := by
  intro h f hf
  obtain ⟨column, g, rfl, hg, hop⟩ := render_comparison_eq_ok.mp hf
  rw [texts_comparison, List.forall_mem_append] at h
  obtain ⟨hl, hr⟩ := h
  have hleft : Assembled print Name Raw g _ := column.assembled hl hg
  have hsql : ∀ op : Comparison, Inert (" " ++ op.sql) := by
    intro op
    cases op <;> decide
  rcases hop with ⟨test, ht, rfl⟩ | ⟨ht, -, rfl, rfl⟩ | ⟨ht, -, operand, k, rfl, hk, rfl⟩
  · cases right <;> simp only [Expression.inlined, ht] <;> exact hleft.append (.inert (hsql test))
  · simp only [Expression.inlined, ht]
    exact hleft.append (.inert (hsql op))
  · have hb : Inert (" " ++ op.sql ++ " ") := (hsql op).append (by decide)
    simp only [Expression.inlined, ht]
    rw [← String.append_assoc]
    exact (hleft.append (.inert hb)).append (ih operand rfl hr hk)

/-- Operands of a group are assembled one by one, the raw ones in parentheses. -/
theorem operands_assembled : {es : List Expression} →
    (∀ e ∈ es, e.IsAssembled print Name Raw dialect) →
    (∀ x ∈ operandTexts es, x.Meets Name Raw) → {fs : List Fragment} →
    renderOperands dialect es = .ok fs →
    List.Forall₂ (Assembled print Name Raw) fs (inlinedOperands print dialect es)
  | [], _, _, fs, hfs => by
    obtain rfl : [] = fs := by simpa [renderOperands] using hfs
    exact .nil
  | e :: rest, ih, h, fs, hfs => by
    obtain ⟨f, hf, gs, hgs, rfl⟩ := renderOperands_cons_eq_ok.mp hfs
    obtain ⟨ihe, ihr⟩ := List.forall_mem_cons.mp ih
    obtain ⟨he, hr⟩ := List.forall_mem_append.mp h
    have hfirst := ihe he hf
    refine .cons ?_ (operands_assembled ihr hr hgs)
    cases e.isRaw
    · exact hfirst
    · exact hfirst.parenthesized

/-- A negation is assembled if its operand is. -/
theorem negation_assembled {operands : List Expression}
    (ih : ∀ e ∈ operands, e.IsAssembled print Name Raw dialect) :
    (Expression.negation operands).IsAssembled print Name Raw dialect := by
  intro h f hf
  obtain ⟨operand, g, rfl, hg, rfl⟩ := render_negation_eq_ok.mp hf
  have ho : ∀ x ∈ operand.callerTexts, x.Meets Name Raw := by
    simpa using h
  have hoperand := ih operand (by simp) ho hg
  rw [Expression.inlined]
  cases operand.isGroup
  · exact (Assembled.inert (by decide)).append hoperand.parenthesized
  · exact (Assembled.inert (by decide)).append hoperand

/-- A table, with or without its alias. -/
theorem table_assembled {name : String} {label : Option String} :
    (Source.table name label).IsAssembled print Name Raw dialect := by
  intro h f hf
  obtain ⟨-, rfl⟩ := render_table_eq_ok.mp hf
  cases label with
  | none =>
    rw [Source.inlined]
    exact .name (h (.name name) (by simp))
  | some label =>
    obtain ⟨hn, hl⟩ := List.forall_mem_cons.mp h
    have hlabel : Name label := hl (.name label) (by simp)
    rw [Source.inlined]
    exact ((Assembled.name hn).text_append (.inert (s := " AS ") (by decide))).text_append
      (.name hlabel)

/-- A nested dataset in parentheses, with its alias. -/
theorem nested_assembled {dataset : Dataset} {label : String}
    (ih : dataset.IsAssembled print Name Raw dialect) :
    (Source.nested dataset label).IsAssembled print Name Raw dialect := by
  intro h f hf
  obtain ⟨g, hg, rfl⟩ := render_nested_eq_ok.mp hf
  obtain ⟨hn, hd⟩ := List.forall_mem_cons.mp h
  have hlabel : Assembled print Name Raw (text (" AS " ++ label)) (" AS " ++ label) :=
    (Assembled.inert (by decide)).text_append (.name hn)
  rw [Source.inlined]
  exact (ih hd hg).parenthesized.append hlabel

/-- Joins are assembled if their sources and conditions are. -/
theorem joins_assembled : {js : List Join} →
    (∀ j ∈ js, j.source.IsAssembled print Name Raw dialect ∧
      j.condition.IsAssembled print Name Raw dialect) →
    (∀ x ∈ joinTexts js, x.Meets Name Raw) → {f : Fragment} → renderJoins dialect js = .ok f →
    Assembled print Name Raw f (inlinedJoins print dialect js)
  | [], _, _, f, hf => by
    obtain rfl : Fragment.empty = f := by simpa [renderJoins] using hf
    exact .empty
  | ⟨kind, source, condition⟩ :: rest, ih, h, f, hf => by
    obtain ⟨g, hg, k, hk, m, hm, rfl⟩ := renderJoins_cons_eq_ok.mp hf
    obtain ⟨⟨ihs, ihc⟩, ihr⟩ := List.forall_mem_cons.mp ih
    obtain ⟨hsc, hr⟩ := List.forall_mem_append.mp h
    obtain ⟨hs, hc⟩ := List.forall_mem_append.mp hsc
    have hsource := (ihs hs hg).clause (by cases kind <;> decide : Inert kind.sql)
    have hcondition := (ihc hc hk).clause (by decide : Inert "ON")
    rw [inlinedJoins]
    exact (hsource.append hcondition).append (joins_assembled ihr hr hm)

/-- A condition behind a keyword. -/
theorem clause_assembled {keyword : String} (hk : Inert keyword) {e : Expression}
    (ih : e.IsAssembled print Name Raw dialect) (h : ∀ x ∈ e.callerTexts, x.Meets Name Raw)
    {f : Fragment} (hf : (e.render dialect).map (clause keyword) = .ok f) :
    Assembled print Name Raw f (" " ++ keyword ++ " " ++ e.inlined print dialect) := by
  obtain ⟨g, hg, rfl⟩ := map_eq_ok.mp hf
  exact (ih h hg).clause hk

/-- A source behind its keyword. -/
theorem from_assembled {source : Option Source} {joins : List Join}
    (ih : ∀ s, source = some s → s.IsAssembled print Name Raw dialect)
    (h : ∀ x ∈ source.elim [] Source.callerTexts, x.Meets Name Raw) {f : Fragment}
    (hf : fromClause dialect joins source = .ok f) :
    Assembled print Name Raw f (inlinedFrom print dialect source) := by
  cases source with
  | none =>
    rw [fromClause] at hf
    split at hf
    · cases hf
      exact .empty
    · cases hf
  | some source =>
    obtain ⟨g, hg, rfl⟩ := map_eq_ok.mp hf
    exact (ih source rfl h hg).clause (by decide)

/-- One filter behind its keyword, or several in parentheses. -/
theorem filters_assembled {filters : List Expression}
    (ih : ∀ e ∈ filters, e.IsAssembled print Name Raw dialect)
    (h : ∀ x ∈ operandTexts filters, x.Meets Name Raw) {f : Fragment}
    (hf : filterClause dialect filters = .ok f) :
    Assembled print Name Raw f (inlinedFilters print dialect filters) := by
  match filters with
  | [] =>
    cases hf
    exact .empty
  | [only] =>
    exact clause_assembled (by decide) (ih only (by simp)) (by simpa using h) hf
  | first :: second :: rest =>
    obtain ⟨fs, hfs, rfl⟩ := map_eq_ok.mp hf
    exact (Assembled.groupOf .conjunction (operands_assembled ih h hfs)).clause (by decide)

/-- A filter of groups behind its keyword. -/
theorem having_assembled {condition : Option Expression}
    (ih : ∀ e, condition = some e → e.IsAssembled print Name Raw dialect)
    (h : ∀ x ∈ condition.elim [] Expression.callerTexts, x.Meets Name Raw) {f : Fragment}
    (hf : havingClause dialect condition = .ok f) :
    Assembled print Name Raw f (inlinedHaving print dialect condition) := by
  cases condition with
  | none =>
    cases hf
    exact .empty
  | some condition => exact clause_assembled (by decide) (ih condition rfl) h hf

/-- Whatever is put together of assembled parts is assembled. -/
theorem assembled_hereditary :
    Hereditary (·.IsAssembled print Name Raw dialect) (·.IsAssembled print Name Raw dialect)
      (·.IsAssembled print Name Raw dialect) (·.IsAssembled print Name Raw dialect) where
  comparison _ _ _ := comparison_assembled
  group connective operands ih h f hf := by
    obtain ⟨-, fs, hfs, rfl⟩ := render_group_eq_ok.mp hf
    rw [Expression.inlined]
    exact .groupOf connective (operands_assembled ih h hfs)
  negation _ := negation_assembled
  raw sql params h f hf := by
    obtain ⟨hn, rfl⟩ := render_raw_eq_ok.mp hf
    rw [Expression.inlined]
    exact .raw (h (.raw sql) (by simp)) hn
  single column h op f hf := by
    rw [Operand.inlined]
    exact column.assembled h (render_single_eq_ok.mp hf).2
  list columns h op f hf := by
    obtain ⟨-, -, fs, hfs, rfl⟩ := render_list_eq_ok.mp hf
    rw [Operand.inlined]
    exact .parenthesized (.joined (by decide) (columns_assembled columns h hfs))
  subquery dataset ih h op f hf := by
    obtain ⟨-, g, hg, rfl⟩ := render_subquery_eq_ok.mp hf
    rw [Operand.inlined]
    exact .parenthesized (ih h hg)
  table _ _ := table_assembled
  nested _ _ := nested_assembled
  dataset d ihs ihj ihf ihg h f hf := by
    obtain ⟨projections, source, joins, filters, groupKeys, groupFilter, orderKeys, l, o⟩ := d
    simp only [texts_dataset, List.forall_mem_append] at h
    obtain ⟨⟨⟨⟨⟨⟨hp, hs⟩, hj⟩, hw⟩, hg⟩, hh⟩, ho⟩ := h
    simp only [render_dataset, bind_eq_ok, pure_eq_ok] at hf
    obtain ⟨ps, hps, src, hsrc, js, hjs, ws, hws, gs, hgs, hv, hhv, os, hos, rfl⟩ := hf
    have hselect : Assembled print Name Raw (text "SELECT ") "SELECT " := .inert (by decide)
    have hprojections : Assembled print Name Raw _ _ :=
      .projectionList (columns_assembled projections hp hps)
    have hgroup : Assembled print Name Raw _ _ :=
      .listClause (by decide : Inert "GROUP BY") (columns_assembled groupKeys hg hgs)
    have horder : Assembled print Name Raw _ _ :=
      .listClause (by decide : Inert "ORDER BY") (keys_assembled orderKeys ho hos)
    rw [inlined_dataset]
    exact (((((((hselect.append hprojections).append (from_assembled ihs hs hsrc)).append
      (joins_assembled ihj hj hjs)).append (filters_assembled ihf hw hws)).append hgroup).append
      (having_assembled ihg hh hhv)).append horder).append (window_assembled l o)

theorem Expression.assembled (e : Expression) : e.IsAssembled print Name Raw dialect :=
  assembled_hereditary.of_expression e

theorem Operand.assembled (o : Operand) : o.IsAssembled print Name Raw dialect :=
  assembled_hereditary.of_operand o

theorem Dataset.assembled (d : Dataset) : d.IsAssembled print Name Raw dialect :=
  assembled_hereditary.of_dataset d

/-- Names in a row. -/
theorem names_assembled : {names : List String} → (∀ n ∈ names, Name n) →
    Assembled print Name Raw (text (", ".intercalate names)) (", ".intercalate names)
  | [], _ => .empty
  | [n], h => by
    rw [String.intercalate_singleton]
    exact .name (h n (by simp))
  | n :: m :: rest, h => by
    obtain ⟨hn, hrest⟩ := List.forall_mem_cons.mp h
    rw [String.intercalate_cons_cons]
    exact ((Assembled.name hn).text_append (.inert (by decide))).text_append
      (names_assembled hrest)

/-- An insertion is assembled of its names and values. -/
theorem insertion_assembled (i : Insertion)
    (h : ∀ x ∈ (Command.insertion i).callerTexts, x.Meets Name Raw) :
    Assembled print Name Raw i.render ((Command.insertion i).inlined print dialect) := by
  obtain ⟨table, values⟩ := i
  obtain ⟨ht, hv⟩ := List.forall_mem_cons.mp h
  have hinsert : Assembled print Name Raw (text ("INSERT INTO " ++ table)) _ :=
    (Assembled.inert (by decide)).text_append (.name ht)
  cases values with
  | nil => exact hinsert.text_append (.inert (by decide))
  | cons value rest =>
    have hcolumns : ∀ c ∈ (value :: rest).map Prod.fst, Name c := by
      intro c hc
      obtain ⟨v, hmem, rfl⟩ := List.mem_map.mp hc
      exact hv (.name v.1) (List.mem_map_of_mem hmem)
    have hvalues : List.Forall₂ (Assembled print Name Raw)
        ((value :: rest).map fun v => Fragment.bound v.2)
        ((value :: rest).map fun v => print v.2) := by
      rw [List.forall₂_map_left_iff, List.forall₂_map_right_iff, List.forall₂_same]
      exact fun v _ => .bound v.2
    -- Inert texts have no parentheses : those around the names are parts of their own.
    have hsplit : ∀ names : String, "INSERT INTO " ++ table ++ " (" ++ names ++ ") VALUES " =
        "INSERT INTO " ++ table ++ " " ++ ("(" ++ names ++ ")") ++ " VALUES " := by
      intro names
      rw [show " (" = " " ++ "(" from rfl, show ") VALUES " = ")" ++ " VALUES " from rfl]
      simp only [String.append_assoc]
    have hnames : Assembled print Name Raw _ _ := (names_assembled hcolumns).parenthesized
    have hhead := ((hinsert.text_append (.inert (s := " ") (by decide))).append hnames).text_append
      (.inert (s := " VALUES ") (by decide))
    simp only [Insertion.render, Command.inlined, List.isEmpty_cons, hsplit]
    exact hhead.append (Assembled.joined (by decide) hvalues).parenthesized

/-- A condition of a statement behind its keyword. -/
theorem where_assembled {condition : Option Expression}
    (h : ∀ x ∈ conditionTexts condition, x.Meets Name Raw) {f : Fragment}
    (hf : whereClause dialect condition = .ok f) :
    Assembled print Name Raw f (inlinedCondition print dialect condition) := by
  cases condition with
  | none =>
    cases hf
    exact .empty
  | some condition => exact clause_assembled (by decide) condition.assembled h hf

/-- Assignments of an update, separated by commas. -/
theorem assignments_assembled {assignments : List (String × Value)}
    (h : ∀ a ∈ assignments, Name a.1) :
    Assembled print Name Raw (Fragment.joined ", " (assignments.map Update.assignment))
      (", ".intercalate (assignments.map fun a => a.1 ++ " = " ++ inlinedLiteral print a.2)) := by
  refine .joined (by decide) ?_
  rw [List.forall₂_map_left_iff, List.forall₂_map_right_iff, List.forall₂_same]
  intro a ha
  exact ((Assembled.name (h a ha)).text_append (.inert (by decide))).append (.literal a.2)

/-- An update is assembled of its names, its values and its condition. -/
theorem update_assembled (u : Update)
    (h : ∀ x ∈ (Command.update u).callerTexts, x.Meets Name Raw) {f : Fragment}
    (hf : u.render dialect = .ok f) :
    Assembled print Name Raw f ((Command.update u).inlined print dialect) := by
  obtain ⟨table, assignments, condition⟩ := u
  obtain ⟨hn, hc⟩ := List.forall_mem_append.mp h
  obtain ⟨ht, hcolumns⟩ := List.forall_mem_cons.mp hn
  have ha : ∀ a ∈ assignments, Name a.1 := fun a ha =>
    hcolumns (.name a.1) (List.mem_map_of_mem ha)
  simp only [Update.render] at hf
  split at hf
  · cases hf
  · obtain ⟨g, hg, hf⟩ := bind_eq_ok.mp hf
    obtain rfl := pure_eq_ok.mp hf
    have hupdate : Assembled print Name Raw (text ("UPDATE " ++ table ++ " SET ")) _ :=
      ((Assembled.inert (by decide)).text_append (.name ht)).text_append (.inert (by decide))
    exact (hupdate.append (assignments_assembled ha)).append (where_assembled hc hg)

/-- A deletion is assembled of its table and its condition. -/
theorem deletion_assembled (d : Deletion)
    (h : ∀ x ∈ (Command.deletion d).callerTexts, x.Meets Name Raw) {f : Fragment}
    (hf : d.render dialect = .ok f) :
    Assembled print Name Raw f ((Command.deletion d).inlined print dialect) := by
  obtain ⟨ht, hc⟩ := List.forall_mem_cons.mp h
  obtain ⟨g, hg, hf⟩ := bind_eq_ok.mp hf
  obtain rfl := pure_eq_ok.mp hf
  exact ((Assembled.inert (s := "DELETE FROM ") (by decide)).text_append (.name ht)).append
    (where_assembled hc hg)

/-- A compiled statement is finished from a fragment with the same parts as the statement with its
values in the text. -/
theorem Command.assembled (c : Command) (h : ∀ x ∈ c.callerTexts, x.Meets Name Raw)
    {s : Statement} (hs : c.compile dialect = .ok s) :
    ∃ f : Fragment, Assembled print Name Raw f (c.inlined print dialect) ∧
      f.finish dialect = s := by
  cases c with
  | selection d =>
    obtain ⟨f, hf, rfl⟩ := map_eq_ok.mp hs
    exact ⟨f, d.assembled h hf, rfl⟩
  | insertion i => exact ⟨i.render, insertion_assembled i h, Except.ok.inj hs⟩
  | update u =>
    obtain ⟨f, hf, rfl⟩ := map_eq_ok.mp hs
    exact ⟨f, update_assembled u h hf, rfl⟩
  | deletion d =>
    obtain ⟨f, hf, rfl⟩ := map_eq_ok.mp hs
    exact ⟨f, deletion_assembled d h hf, rfl⟩

end Assembly

end RowMap
