import RowMap.Proofs.Query.Assembled
import RowMap.Proofs.Query.Outline

/-!
# Dialects side by side

What the dialects make of one statement. Fragments of two dialects are compared in what should be
the same, their faults and their parameters (`Command.compile_params`); the texts are compared
through the outline of the statement, which does not know of a dialect (`Command.sql_of_compile`).
Together they say how the statements differ (`Command.compile_dialects`).
-/

namespace RowMap

open Fragment (text joined parenthesized)

/-! ## Faults and parameters -/

/-- Two renderings have the same fault or the same parameters. -/
def SameParams (x y : Except CompilationFault Fragment) : Prop :=
  x.map Fragment.params = y.map Fragment.params

namespace SameParams

theorem pure {f g : Fragment} (h : f.params = g.params) : SameParams (pure f) (pure g) :=
  congrArg Except.ok h

/-- What is made of agreeing fragments agrees. -/
theorem bind {x y : Except CompilationFault Fragment}
    {k l : Fragment → Except CompilationFault Fragment} (h : SameParams x y)
    (hkl : ∀ f g, f.params = g.params → SameParams (k f) (l g)) :
    SameParams (x >>= k) (y >>= l) :=
  map_bind_congr h hkl

/-- The first step is the same. -/
theorem bind_right {α : Type} {x : Except CompilationFault α}
    {k l : α → Except CompilationFault Fragment} (h : ∀ a, SameParams (k a) (l a)) :
    SameParams (x >>= k) (x >>= l) :=
  map_bind_congr rfl fun a b hab => by
    obtain rfl : a = b := hab
    exact h a

theorem clause {x y : Except CompilationFault Fragment} (h : SameParams x y) (keyword : String) :
    SameParams (x.map (clause keyword)) (y.map (RowMap.clause keyword)) :=
  map_map_congr h fun _ _ hfg => hfg

end SameParams

theorem params_parenthesized (f : Fragment) : f.parenthesized.params = f.params := by
  simp [parenthesized]

theorem params_groupOf (connective : Connective) (fs : List Fragment) :
    (groupOf connective fs).params = (fs.map Fragment.params).flatten := by
  rw [groupOf, params_parenthesized, Fragment.params_joined]

/-- A window has no parameters. -/
theorem params_windowClause (dialect : Dialect) (limit offset : Option UInt64) :
    (windowClause dialect limit offset).params = [] := by
  unfold windowClause
  split <;> rfl

section Params

variable {d d' : Dialect}

/-- A comparison has the same parameters in both dialects if its right side has. -/
theorem comparison_params {op : Comparison} {left : Option Column} {right : Option Operand}
    (ih : ∀ o, right = some o → ∀ op, SameParams (o.render d op) (o.render d' op)) :
    SameParams ((Expression.comparison op left right).render d)
      ((Expression.comparison op left right).render d') := by
  unfold SameParams
  cases left with
  | none => cases right <;> simp [Expression.render, bind, Except.bind]
  | some column =>
    cases right with
    | none =>
      rw [Expression.render, Expression.render]
      refine SameParams.bind_right fun f => ?_
      cases nullTest? op none <;> cases op.isUnary <;> rfl
    | some operand =>
      rw [Expression.render, Expression.render]
      refine SameParams.bind_right fun f => ?_
      cases nullTest? op (some operand) with
      | some test => rfl
      | none =>
        cases op.isUnary with
        | true => rfl
        | false => exact (ih operand rfl op).bind fun g h hgh => .pure (by simp [hgh])

/-- Operands have the same parameters in both dialects if each of them has. -/
theorem operands_params : {es : List Expression} →
    (∀ e ∈ es, SameParams (e.render d) (e.render d')) →
    (renderOperands d es).map (List.map Fragment.params) =
      (renderOperands d' es).map (List.map Fragment.params)
  | [], _ => rfl
  | e :: rest, ih => by
    obtain ⟨ihe, ihr⟩ := List.forall_mem_cons.mp ih
    rw [renderOperands, renderOperands]
    refine map_bind_congr ihe fun f g hfg => map_bind_congr (operands_params ihr) fun fs gs h => ?_
    cases e.isRaw <;> simp [pure, Except.pure, Except.map, hfg, h, params_parenthesized]

/-- A group has the same parameters in both dialects if its operands have. -/
theorem group_params {connective : Connective} {operands : List Expression}
    (ih : ∀ e ∈ operands, SameParams (e.render d) (e.render d')) :
    SameParams ((Expression.group connective operands).render d)
      ((Expression.group connective operands).render d') := by
  rw [Expression.render, Expression.render]
  split
  · simp [SameParams, bind, Except.bind]
  · exact map_bind_congr (operands_params ih) fun fs gs h =>
      SameParams.pure (by rw [params_groupOf, params_groupOf, h])

/-- A negation has the same parameters in both dialects if its operand has. -/
theorem negation_params {operands : List Expression}
    (ih : ∀ e ∈ operands, SameParams (e.render d) (e.render d')) :
    SameParams ((Expression.negation operands).render d)
      ((Expression.negation operands).render d') := by
  match operands with
  | [operand] =>
    rw [Expression.render, Expression.render]
    refine (ih operand (by simp)).bind fun f g h => .pure ?_
    cases operand.isGroup <;> simp [params_parenthesized, h]
  | [] => simp [SameParams, Expression.render]
  | _ :: _ :: _ => simp [SameParams, Expression.render]

/-- Joins have the same parameters in both dialects if their parts have. -/
theorem joins_params : {js : List Join} →
    (∀ j ∈ js, SameParams (j.source.render d) (j.source.render d') ∧
      SameParams (j.condition.render d) (j.condition.render d')) →
    SameParams (renderJoins d js) (renderJoins d' js)
  | [], _ => by simp only [SameParams, renderJoins]
  | ⟨kind, source, condition⟩ :: rest, ih => by
    obtain ⟨⟨ihs, ihc⟩, ihr⟩ := List.forall_mem_cons.mp ih
    rw [renderJoins, renderJoins]
    refine ihs.bind fun _ _ hs => ihc.bind fun _ _ hc => (joins_params ihr).bind fun _ _ hr => ?_
    exact .pure (by simp [clause, hs, hc, hr])

/-- The source clause has the same parameters in both dialects. -/
theorem fromClause_params {source : Option Source} {joins : List Join}
    (ih : ∀ s, source = some s → SameParams (s.render d) (s.render d')) :
    SameParams (fromClause d joins source) (fromClause d' joins source) := by
  cases source with
  | none => rfl
  | some source => exact (ih source rfl).clause "FROM"

/-- The filters have the same parameters in both dialects. -/
theorem filterClause_params {filters : List Expression}
    (ih : ∀ e ∈ filters, SameParams (e.render d) (e.render d')) :
    SameParams (filterClause d filters) (filterClause d' filters) := by
  match filters with
  | [] => rfl
  | [only] => exact (ih only (by simp)).clause "WHERE"
  | first :: second :: rest =>
    refine map_map_congr (operands_params ih) fun fs gs h => ?_
    simp only [clause, Fragment.params_append, params_groupOf, h]

/-- The filter of groups has the same parameters in both dialects. -/
theorem havingClause_params {groupFilter : Option Expression}
    (ih : ∀ e, groupFilter = some e → SameParams (e.render d) (e.render d')) :
    SameParams (havingClause d groupFilter) (havingClause d' groupFilter) := by
  cases groupFilter with
  | none => rfl
  | some condition => exact (ih condition rfl).clause "HAVING"

/-- Whatever a query is put together of, its parameters depend on no dialect. -/
theorem hereditary_params (d d' : Dialect) :
    Hereditary (fun e => SameParams (e.render d) (e.render d'))
      (fun o => ∀ op, SameParams (o.render d op) (o.render d' op))
      (fun s => SameParams (s.render d) (s.render d'))
      (fun q => SameParams (q.render d) (q.render d')) where
  comparison _ _ _ := comparison_params
  group _ _ := group_params
  negation _ := negation_params
  raw _ _ := by simp only [SameParams, Expression.render]
  single _ _ := by simp only [SameParams, Operand.render]
  list _ _ := by simp only [SameParams, Operand.render]
  subquery q ih op := by
    simp only [Operand.render]
    split
    · rfl
    · exact ih.bind fun f g h => .pure (by simp [params_parenthesized, h])
  table _ _ := by simp only [SameParams, Source.render]
  nested q label ih := by
    rw [Source.render, Source.render]
    exact ih.bind fun f g h => .pure (by simp [params_parenthesized, h])
  dataset q ihs ihj ihf ihg := by
    obtain ⟨projections, source, joins, filters, groupKeys, groupFilter, orderKeys, l, o⟩ := q
    rw [render_dataset, render_dataset]
    refine .bind_right fun _ => ?_
    refine (fromClause_params ihs).bind fun _ _ hs => ?_
    refine (joins_params ihj).bind fun _ _ hj => ?_
    refine (filterClause_params ihf).bind fun _ _ hf => ?_
    refine .bind_right fun _ => ?_
    refine (havingClause_params ihg).bind fun _ _ hh => ?_
    refine .bind_right fun _ => .pure ?_
    simp [hs, hj, hf, hh, params_windowClause]

/-- The condition of a statement has the same parameters in both dialects. -/
theorem whereClause_params (condition : Option Expression) :
    SameParams (whereClause d condition) (whereClause d' condition) := by
  cases condition with
  | none => rfl
  | some condition =>
    exact SameParams.clause ((hereditary_params d d').of_expression condition) "WHERE"

/-- The fault or the parameters of a statement do not depend on the dialect. -/
theorem Command.compile_params (c : Command) (d d' : Dialect) :
    (c.compile d).map Statement.params = (c.compile d').map Statement.params := by
  have finish : ∀ {x y : Except CompilationFault Fragment}, SameParams x y →
      (x.map (·.finish d)).map Statement.params = (y.map (·.finish d')).map Statement.params :=
    fun h => map_map_congr h fun _ _ hfg => hfg
  cases c with
  | selection q => exact finish ((hereditary_params d d').of_dataset q)
  | insertion i => rfl
  | update u =>
    refine finish ?_
    unfold Update.render
    split
    · rfl
    · exact (whereClause_params u.condition).bind fun f g h => .pure (by simp [h])
  | deletion q =>
    exact finish ((whereClause_params q.condition).bind fun f g h => .pure (by simp [h]))

end Params

/-- A fragment has the text of the query with question marks for its values. -/
theorem Assembled.sql_eq {Name Raw : String → Prop} {f : Fragment} {s : String}
    (h : Assembled questionMark Name Raw f s) : f.sql = s := by
  induction h with
  | inert => rfl
  | name => rfl
  | bound => rfl
  | raw h hn => exact (Sql.filled_questionMarks (by simp [questionMark]) _).symm
  | append hf hg ihf ihg => rw [Fragment.sql_append, ihf, ihg]
  | parenthesized hf ih => rw [← ih]; rfl

/-- The compiled text is the finalized outline, with the limit that the dialect wants. -/
theorem Command.sql_of_compile (c : Command) {d : Dialect} {s : Statement}
    (hs : c.compile d = .ok s) : s.sql = d.finalize (written d.limitlessPart c.outline) := by
  have hmeets : ∀ x ∈ c.callerTexts, x.Meets (fun _ => True) (fun _ => True) := by
    rintro (x | x) - <;> trivial
  obtain ⟨f, hf, rfl⟩ := c.assembled hmeets hs
  rw [c.written_outline, ← hf.sql_eq]
  rfl

/-- What compiles in one dialect compiles in all of them, with the same parameters. -/
theorem Command.compile_ok {c : Command} {d : Dialect} {s : Statement}
    (hs : c.compile d = .ok s) (d' : Dialect) :
    c.compile d' = .ok ⟨d'.finalize (written d'.limitlessPart c.outline), s.params⟩ := by
  have hparams := c.compile_params d' d
  rw [hs] at hparams
  obtain ⟨t, ht, hst⟩ := map_eq_ok.mp hparams
  rw [ht, ← hst, ← c.sql_of_compile ht]

/-- What fails in one dialect fails alike in all of them. -/
theorem Command.compile_error {c : Command} {d : Dialect} {fault : CompilationFault}
    (h : c.compile d = .error fault) (d' : Dialect) : c.compile d' = .error fault := by
  have hparams := c.compile_params d' d
  rw [h] at hparams
  cases hc : c.compile d' with
  | ok s => simp [hc, Except.map] at hparams
  | error e => simpa [hc, Except.map] using hparams

/-- An update or a deletion that has a statement has a well-formed condition. -/
theorem wellFormed_of_whereClause {d : Dialect} {condition : Option Expression} {f : Fragment}
    (h : whereClause d condition = .ok f) : ∀ e, condition = some e → e.WellFormed := by
  rintro e rfl
  obtain ⟨g, hg, -⟩ := map_eq_ok.mp h
  exact ((hereditary_compiles d).of_expression e).mp ⟨g, hg⟩

/-- The offsets of an outline are those of the datasets without a limit. -/
theorem Command.offsets_outline {c : Command} {d : Dialect} {s : Statement}
    (hs : c.compile d = .ok s) :
    offsets c.outline = c.datasets.filterMap Dataset.openOffset? := by
  cases c with
  | selection q =>
    obtain ⟨f, hf, -⟩ := map_eq_ok.mp hs
    exact q.offsets_outline (((hereditary_compiles d).of_dataset q).mp ⟨f, hf⟩)
  | insertion i => rfl
  | update u =>
    obtain ⟨f, hf, -⟩ := map_eq_ok.mp hs
    unfold Update.render at hf
    split at hf
    · cases hf
    · obtain ⟨g, hg, -⟩ := bind_eq_ok.mp hf
      exact offsets_conditionOutline (wellFormed_of_whereClause hg)
  | deletion q =>
    obtain ⟨f, hf, -⟩ := map_eq_ok.mp hs
    obtain ⟨g, hg, -⟩ := bind_eq_ok.mp hf
    exact offsets_conditionOutline (wellFormed_of_whereClause hg)

/-- A statement that has a fault in one dialect has it in all of them. Otherwise all have the same
parameters, the placeholders of PostgreSQL are numbered over the whole of the neutral text, and the
others differ from it in what they put before the offset of each dataset that has no limit. -/
theorem Command.compile_dialects (c : Command) :
    (∀ d d' fault, c.compile d = .error fault → c.compile d' = .error fault) ∧
    ∀ s, c.compile .neutral = .ok s →
      c.compile .postgres = .ok ⟨Dialect.postgres.finalize s.sql, s.params⟩ ∧
      s.sql = written "" c.outline ∧
      c.compile .sqlite = .ok ⟨written "LIMIT -1 " c.outline, s.params⟩ ∧
      c.compile .mysql = .ok ⟨written "LIMIT 18446744073709551615 " c.outline, s.params⟩ ∧
      offsets c.outline = c.datasets.filterMap Dataset.openOffset? ∧
      ((∀ q ∈ c.datasets, q.openOffset? = none) →
        c.compile .sqlite = .ok s ∧ c.compile .mysql = .ok s) := by
  refine ⟨fun d d' fault h => Command.compile_error h d', fun s hs => ?_⟩
  have hsql : s.sql = written "" c.outline := c.sql_of_compile hs
  have hpostgres := Command.compile_ok hs .postgres
  have hoffsets := Command.offsets_outline hs
  refine ⟨?_, hsql, Command.compile_ok hs .sqlite, Command.compile_ok hs .mysql, hoffsets,
    fun hnone => ?_⟩
  · rw [hsql]
    exact hpostgres
  · have hnil : offsets c.outline = [] := by
      rw [hoffsets, List.filterMap_eq_nil_iff]
      exact hnone
    have same : ∀ before, ⟨written before c.outline, s.params⟩ = s := by
      intro before
      rw [written_of_offsets_nil hnil "", ← hsql]
    have hsqlite := Command.compile_ok hs .sqlite
    have hmysql := Command.compile_ok hs .mysql
    exact ⟨hsqlite.trans (congrArg _ (same _)), hmysql.trans (congrArg _ (same _))⟩

/-- Both windows are completed, that of the source and that around it. -/
example :
    let notes : Dataset := { Dataset.empty.fromTable "notes" with offset := some 3 }
    let outer : Dataset := { Dataset.empty.fromSource (.nested notes "n") with offset := some 5 }
    (outer.compile .sqlite).map Statement.sql =
      .ok "SELECT * FROM (SELECT * FROM notes LIMIT -1 OFFSET 3) AS n LIMIT -1 OFFSET 5" := by
  cbv

end RowMap
