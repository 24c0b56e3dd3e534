import RowMap.Proofs.Condition.Meaning
import RowMap.Proofs.Query.Dialects

/-!
# Repeated conditions

A dataset lists its conditions and combines them when it is rendered. An update and a deletion
combine each condition with those before at once, and there a first condition that is a conjunction
takes in the others (`foldl_and`). The two combinations are rendered with the same fault or the same
parameters (`sameParams_conjoined`), and with the same text but for one pair of parentheses
(`render_conjoined`); they have the same truth value, whatever the conditions stand for
(`value_conjoined`). So a dataset, an update and a deletion with the same conditions select the same
rows (`filters_agree`).
-/

namespace RowMap

open Fragment (text joined parenthesized)
open Sql (tokens)

/-- The conditions as a dataset combines them: one stands alone, several form a group. -/
def collected (first : Expression) (rest : List Expression) : Expression :=
  match rest with
  | [] => first
  | _ => .all (first :: rest)

/-- The conditions as an update or a deletion combines them, one after the other. -/
def conjoined (first : Expression) (rest : List Expression) : Expression :=
  rest.foldl Expression.and first

/-- A conjunction of some conditions. -/
def Expression.IsConjunction (e : Expression) : Prop :=
  ∃ operands, operands ≠ [] ∧ e = .group .conjunction operands

/-- A dataset collects its filters in a list. -/
theorem foldl_filter (d : Dataset) (es : List Expression) :
    es.foldl Dataset.filter d = { d with filters := d.filters ++ es } := by
  induction es generalizing d with
  | nil =>
    cases d
    simp
  | cons e rest ih => simp [ih, Dataset.filter]

/-- An update or a deletion conjoins its filters one by one. -/
theorem foldl_alsoIf (first : Expression) (rest : List Expression) :
    rest.foldl alsoIf (some first) = some (conjoined first rest) := by
  induction rest generalizing first with
  | nil => rfl
  | cons e rest ih => exact ih (first.and e)

/-- Filters of an update without a condition are conjoined. -/
theorem Update.foldl_filter {u : Update} (h : u.condition = none) (first : Expression)
    (rest : List Expression) :
    (first :: rest).foldl Update.filter u =
      { u with condition := some (conjoined first rest) } := by
  have hlater : ∀ (es : List Expression) (u : Update),
      es.foldl Update.filter u = { u with condition := es.foldl alsoIf u.condition } := by
    intro es
    induction es with
    | nil => exact fun _ => rfl
    | cons e es ih => exact fun u => ih (u.filter e)
  rw [hlater, h, ← foldl_alsoIf]
  rfl

/-- Filters of a deletion without a condition are conjoined. -/
theorem Deletion.foldl_filter {q : Deletion} (h : q.condition = none) (first : Expression)
    (rest : List Expression) :
    (first :: rest).foldl Deletion.filter q =
      { q with condition := some (conjoined first rest) } := by
  have hlater : ∀ (es : List Expression) (q : Deletion),
      es.foldl Deletion.filter q = { q with condition := es.foldl alsoIf q.condition } := by
    intro es
    induction es with
    | nil => exact fun _ => rfl
    | cons e es ih => exact fun q => ih (q.filter e)
  rw [hlater, h, ← foldl_alsoIf]
  rfl

/-- A conjunction takes in all that is added to it. -/
theorem conjoined_group {operands : List Expression} (h : operands ≠ []) (rest : List Expression) :
    conjoined (.group .conjunction operands) rest = .group .conjunction (operands ++ rest) := by
  induction rest generalizing operands with
  | nil => rw [List.append_nil]; rfl
  | cons e rest ih =>
    have htaken : (Expression.group .conjunction operands).and e =
        .group .conjunction (operands ++ [e]) := if_pos ⟨rfl, h⟩
    have hrest : conjoined (.group .conjunction (operands ++ [e])) rest =
        .group .conjunction (operands ++ [e] ++ rest) := ih (by simp)
    rw [List.append_assoc] at hrest
    rw [conjoined, List.foldl_cons, htaken]
    exact hrest

/-- Without a conjunction at the beginning both combinations are the same. -/
theorem conjoined_eq_collected {first : Expression} {rest : List Expression}
    (h : ¬(rest ≠ [] ∧ first.IsConjunction)) : conjoined first rest = collected first rest := by
  cases rest with
  | nil => rfl
  | cons e rest =>
    have hand : first.and e = .group .conjunction [first, e] := by
      rcases combine_eq_group .conjunction first e with hpair | ⟨operands, hne, hfirst, -⟩
      · exact hpair
      · exact absurd ⟨List.cons_ne_nil _ _, operands, hne, hfirst⟩ h
    have hrest := conjoined_group (List.cons_ne_nil first [e]) rest
    rw [conjoined, List.foldl_cons, hand]
    exact hrest

section Truth

variable (v : Expression → Truth)

mutual

/-- The truth of a condition if that of the conditions it is composed of is given. -/
def Expression.value : Expression → Truth
  | .comparison op left right => v (.comparison op left right)
  | .group k operands => k.truth (values operands)
  | .negation [operand] => operand.value.not
  | .negation operands => v (.negation operands)
  | .raw text params => v (.raw text params)

/-- The truths of a list of conditions. -/
def values : List Expression → List Truth
  | [] => []
  | operand :: rest => operand.value :: values rest

end

theorem values_eq_map (es : List Expression) : values v es = es.map (·.value v) := by
  induction es with
  | nil => rfl
  | cons e rest ih => rw [values, ih, List.map_cons]

theorem value_group (k : Connective) (operands : List Expression) :
    (Expression.group k operands).value v = k.truth (operands.map (·.value v)) := by
  rw [Expression.value, values_eq_map]

/-- The truth of a combination is the combined truth. -/
theorem value_combine (k : Connective) (a b : Expression) :
    (a.combine k b).value v = k.combine (a.value v) (b.value v) := by
  rcases combine_eq_group k a b with h | ⟨operands, -, rfl, h⟩
  · rw [h, value_group]
    exact congrArg (k.combine _) (k.truth_singleton _)
  · rw [h, value_group, value_group, List.map_append, List.map_singleton, k.truth_append,
      k.truth_singleton]

/-- Conjoined conditions are true together. -/
theorem value_conjoined (first : Expression) (rest : List Expression) :
    (conjoined first rest).value v =
      Connective.conjunction.truth ((first :: rest).map (·.value v)) := by
  induction rest generalizing first with
  | nil => exact (Connective.truth_singleton _ _).symm
  | cons e rest ih =>
    have hand : (first.and e).value v =
        Connective.conjunction.combine (first.value v) (e.value v) :=
      value_combine v .conjunction first e
    have hrest := ih (first.and e)
    rw [List.map_cons, hand] at hrest
    refine hrest.trans ?_
    exact Connective.combine_assoc .conjunction _ _ _

/-- Collected conditions are true together. -/
theorem value_collected (first : Expression) (rest : List Expression) :
    (collected first rest).value v =
      Connective.conjunction.truth ((first :: rest).map (·.value v)) := by
  cases rest with
  | nil => exact (Connective.truth_singleton _ _).symm
  | cons e rest => exact value_group v .conjunction _

/-- What a text is read as gives the conditions it is composed of a truth value. -/
theorem truth_eq_value (v : List Sql.Token → Truth) (dialect : Dialect) (e : Expression) :
    e.truth v dialect = e.value (·.truth v dialect) := by
  induction e using Expression.of_parts with
  | comparison op left right => rfl
  | group k operands ih =>
    rw [truth_group, value_group]
    exact congrArg k.truth (List.map_congr_left ih)
  | negation operands ih =>
    match operands, ih with
    | [], _ => rfl
    | [operand], ih => rw [Expression.truth, Expression.value, ih operand (by simp)]
    | _ :: _ :: _, _ => rfl
  | raw text params => rfl

end Truth

/-! ## Rendering -/

section Rendering

variable {dialect : Dialect}

/-- Two lists of operands render one after the other. -/
theorem renderOperands_append (es es' : List Expression) :
    renderOperands dialect (es ++ es') = (do
      let fs ← renderOperands dialect es
      let gs ← renderOperands dialect es'
      return fs ++ gs) := by
  induction es with
  | nil =>
    rw [List.nil_append, renderOperands]
    cases renderOperands dialect es' <;> rfl
  | cons e rest ih => simp [renderOperands, ih]

/-- Every operand renders to one fragment. -/
theorem length_renderOperands : {es : List Expression} → {fs : List Fragment} →
    renderOperands dialect es = .ok fs → fs.length = es.length
  | [], _, h => by
    obtain rfl := Except.ok.inj h
    rfl
  | e :: rest, _, h => by
    obtain ⟨f, -, gs, hgs, rfl⟩ := renderOperands_cons_eq_ok.mp h
    simp [length_renderOperands hgs]

variable {operands rest : List Expression}

/-- A group with operands renders to them, its connective in between. -/
theorem render_group (k : Connective) (h : operands ≠ []) :
    (Expression.group k operands).render dialect =
      (renderOperands dialect operands).map (groupOf k) := by
  rw [Expression.render, if_neg (by simpa using h)]
  cases renderOperands dialect operands <;> rfl

/-- A conjunction that has taken in further conditions. -/
theorem render_taken (h : operands ≠ []) :
    (Expression.group .conjunction (operands ++ rest)).render dialect = (do
      let fs ← renderOperands dialect operands
      let gs ← renderOperands dialect rest
      return groupOf .conjunction (fs ++ gs)) := by
  rw [render_group _ (by simp [h]), renderOperands_append]
  cases renderOperands dialect operands with
  | error fault => rfl
  | ok fs => cases renderOperands dialect rest <;> rfl

/-- A conjunction next to further conditions. -/
theorem render_beside (h : operands ≠ []) :
    (Expression.group .conjunction (.group .conjunction operands :: rest)).render dialect = (do
      let fs ← renderOperands dialect operands
      let gs ← renderOperands dialect rest
      return groupOf .conjunction (groupOf .conjunction fs :: gs)) := by
  rw [render_group _ (by simp), renderOperands, render_group _ h]
  cases renderOperands dialect operands with
  | error fault => rfl
  | ok fs => cases renderOperands dialect rest <;> rfl

/-- A first condition that is a conjunction stays a group of its own when collected. -/
theorem collected_group (h : rest ≠ []) (operands : List Expression) :
    collected (.group .conjunction operands) rest =
      .group .conjunction (.group .conjunction operands :: rest) := by
  cases rest with
  | nil => exact absurd rfl h
  | cons => rfl

/-- Both combinations fail alike or carry the same parameters. -/
theorem sameParams_conjoined (dialect : Dialect) (first : Expression) (rest : List Expression) :
    SameParams ((collected first rest).render dialect) ((conjoined first rest).render dialect) := by
  by_cases h : rest ≠ [] ∧ first.IsConjunction
  · obtain ⟨hrest, operands, hne, rfl⟩ := h
    rw [collected_group hrest, conjoined_group hne, render_beside hne, render_taken hne]
    refine .bind_right fun fs => .bind_right fun gs => .pure ?_
    simp [params_groupOf]
  · rw [conjoined_eq_collected h]
    rfl

/-- The two combinations differ in the parentheses of a conjunction at the beginning. -/
theorem render_conjoined {first : Expression} (hrest : rest ≠ []) (hfirst : first.IsConjunction)
    {w : Fragment} (hw : (collected first rest).render dialect = .ok w) :
    ∃ inner later, first.render dialect = .ok (parenthesized inner) ∧
      w = parenthesized (parenthesized inner ++ text " AND " ++ later) ∧
      (conjoined first rest).render dialect =
        .ok (parenthesized (inner ++ text " AND " ++ later)) := by
  obtain ⟨operands, hne, rfl⟩ := hfirst
  rw [collected_group hrest, render_beside hne] at hw
  obtain ⟨fs, hfs, hw⟩ := bind_eq_ok.mp hw
  obtain ⟨gs, hgs, hw⟩ := bind_eq_ok.mp hw
  obtain rfl := Except.ok.inj hw
  have hfs_ne : fs ≠ [] :=
    List.ne_nil_of_length_pos (length_renderOperands hfs ▸ List.length_pos_of_ne_nil hne)
  have hgs_ne : gs ≠ [] :=
    List.ne_nil_of_length_pos (length_renderOperands hgs ▸ List.length_pos_of_ne_nil hrest)
  refine ⟨joined " AND " fs, joined " AND " gs, ?_, ?_, ?_⟩
  · rw [render_group _ hne, hfs]
    rfl
  · exact congrArg parenthesized (Fragment.joined_cons " AND " _ hgs_ne)
  · rw [conjoined_group hne, render_taken hne, hfs, hgs]
    exact congrArg Except.ok
      (congrArg parenthesized (Fragment.joined_append " AND " hfs_ne hgs_ne))

end Rendering

/-! ## Conditions of a dataset, an update and a deletion -/

section Clauses

variable {dialect : Dialect}

/-- The filters of a dataset render like their collected condition. -/
theorem filterClause_collected (first : Expression) (rest : List Expression) :
    filterClause dialect (first :: rest) =
      ((collected first rest).render dialect).map (clause "WHERE") := by
  cases rest with
  | nil => rfl
  | cons e rest =>
    have hgroup : (collected first (e :: rest)).render dialect =
        (renderOperands dialect (first :: e :: rest)).map (groupOf .conjunction) :=
      render_group .conjunction (List.cons_ne_nil first (e :: rest))
    rw [hgroup]
    change (renderOperands dialect (first :: e :: rest)).map _ = _
    cases renderOperands dialect (first :: e :: rest) <;> rfl

/-- Legible conditions are legible when conjoined. -/
theorem legible_conjoined {first : Expression} {rest : List Expression}
    (h : ∀ e ∈ first :: rest, e.Legible) : (conjoined first rest).Legible := by
  induction rest generalizing first with
  | nil => exact h first (by simp)
  | cons e rest ih =>
    simp only [List.forall_mem_cons] at h
    obtain ⟨hfirst, he, hrest⟩ := h
    exact ih (List.forall_mem_cons.mpr ⟨combine_legible hfirst he, hrest⟩)

/-- Legible conditions are legible when collected. -/
theorem legible_collected {first : Expression} {rest : List Expression}
    (h : ∀ e ∈ first :: rest, e.Legible) : (collected first rest).Legible := by
  have hall : ∀ {es : List Expression}, (∀ e ∈ es, e.Legible) →
      ∀ x ∈ operandTexts es, x.Meets Sql.IsName Sql.Balanced := by
    intro es
    induction es with
    | nil => simp [operandTexts]
    | cons e es ih =>
      intro h
      obtain ⟨he, hes⟩ := List.forall_mem_cons.mp h
      exact List.forall_mem_append.mpr ⟨he, ih hes⟩
  cases rest with
  | nil => exact h first (by simp)
  | cons e rest => exact hall h

/-- The statement of a dataset with a source and conditions only. -/
theorem compile_selection {source : Source} {origin : Fragment}
    (hsource : source.render dialect = .ok origin) (first : Expression) (rest : List Expression) :
    ((first :: rest).foldl Dataset.filter (Dataset.empty.fromSource source)).compile dialect =
      ((collected first rest).render dialect).map fun w =>
        (text "SELECT *" ++ clause "FROM" origin ++ clause "WHERE" w).finish dialect := by
  have hrows := render_rows hsource (first :: rest) none none
  rw [filterClause_collected] at hrows
  rw [foldl_filter, Dataset.compile]
  simp only [Dataset.fromSource, Dataset.empty, List.nil_append]
  rw [hrows]
  cases (collected first rest).render dialect <;> simp [Except.map, windowClause, Dialect.window?]

/-- A filtered update is compiled with the conjoined condition. -/
theorem compile_update (dialect : Dialect) {u : Update} (hu : u.assignments ≠ [])
    (hcondition : u.condition = none) (first : Expression) (rest : List Expression) :
    ((first :: rest).foldl Update.filter u).compile dialect =
      ((conjoined first rest).render dialect).map fun w =>
        (text ("UPDATE " ++ u.table ++ " SET ") ++ joined ", " (u.assignments.map Update.assignment)
          ++ clause "WHERE" w).finish dialect := by
  rw [Update.foldl_filter hcondition, Update.compile, Update.render, if_neg (by simpa using hu),
    whereClause]
  cases (conjoined first rest).render dialect <;> rfl

/-- A filtered deletion is compiled with the conjoined condition. -/
theorem compile_deletion (dialect : Dialect) {q : Deletion} (hcondition : q.condition = none)
    (first : Expression) (rest : List Expression) :
    ((first :: rest).foldl Deletion.filter q).compile dialect =
      ((conjoined first rest).render dialect).map fun w =>
        (text ("DELETE FROM " ++ q.table) ++ clause "WHERE" w).finish dialect := by
  rw [Deletion.foldl_filter hcondition, Deletion.compile, Deletion.render, whereClause]
  cases (conjoined first rest).render dialect <;> rfl

end Clauses

/-- The same conditions, one after the other, for a dataset, an update and a deletion. Either all
three have a statement or all have the same fault. What stands behind WHERE has the same parameters
and the same text, except that a dataset keeps the parentheses of a conjunction at the beginning
when more conditions follow, which the others drop. Read as SQL these texts have the same truth
value, and so have the conditions, whatever the single ones stand for. -/
theorem filters_agree (dialect : Dialect) {name : String} (label : Option String)
    (hname : name ≠ "") {u : Update} (hassignments : u.assignments ≠ []) (hu : u.condition = none)
    {q : Deletion} (hq : q.condition = none) (first : Expression) (rest : List Expression) :
    let selection :=
      (first :: rest).foldl Dataset.filter (Dataset.empty.fromSource (.table name label))
    let update := (first :: rest).foldl Update.filter u
    let deletion := (first :: rest).foldl Deletion.filter q
    (∀ fault, (update.compile dialect = .error fault ↔ selection.compile dialect = .error fault) ∧
      (deletion.compile dialect = .error fault ↔ selection.compile dialect = .error fault)) ∧
    (∀ s, selection.compile dialect = .ok s → ∃ origin w w' : Fragment,
      (Source.table name label).render dialect = .ok origin ∧
      s = (text "SELECT *" ++ clause "FROM" origin ++ clause "WHERE" w).finish dialect ∧
      update.compile dialect = .ok ((text ("UPDATE " ++ u.table ++ " SET ")
        ++ joined ", " (u.assignments.map Update.assignment) ++ clause "WHERE" w').finish dialect) ∧
      deletion.compile dialect =
        .ok ((text ("DELETE FROM " ++ q.table) ++ clause "WHERE" w').finish dialect) ∧
      w'.params = w.params ∧
      (¬(rest ≠ [] ∧ first.IsConjunction) → w' = w) ∧
      (rest ≠ [] → first.IsConjunction → ∃ inner later,
        first.render dialect = .ok (parenthesized inner) ∧
        w = parenthesized (parenthesized inner ++ text " AND " ++ later) ∧
        w' = parenthesized (inner ++ text " AND " ++ later)) ∧
      ((∀ e ∈ first :: rest, e.Legible) → ∀ v,
        (Condition.read (tokens w'.sql)).truth v = (Condition.read (tokens w.sql)).truth v)) ∧
    ∃ condition, update.condition = some condition ∧ deletion.condition = some condition ∧
      ∀ v, condition.value v =
        Connective.conjunction.truth (selection.filters.map (·.value v)) := by
  intro selection update deletion
  obtain ⟨origin, horigin⟩ : ∃ origin, (Source.table name label).render dialect = .ok origin :=
    ⟨_, render_table_eq_ok.mpr ⟨hname, rfl⟩⟩
  have hselection := compile_selection horigin first rest
  have hupdate := compile_update dialect hassignments hu first rest
  have hdeletion := compile_deletion dialect hq first rest
  have hparams := sameParams_conjoined dialect first rest
  refine ⟨fun fault => ?_, fun s hs => ?_, conjoined first rest,
    congrArg Update.condition (Update.foldl_filter hu first rest),
    congrArg Deletion.condition (Deletion.foldl_filter hq first rest), fun v => ?_⟩
  · have hfault : (conjoined first rest).render dialect = .error fault ↔
        (collected first rest).render dialect = .error fault := by
      rw [← map_eq_error (f := Fragment.params), ← hparams, map_eq_error]
    rw [hselection, hupdate, hdeletion, map_eq_error, map_eq_error, map_eq_error, hfault]
    exact ⟨.rfl, .rfl⟩
  · rw [hselection] at hs
    obtain ⟨w, hw, rfl⟩ := map_eq_ok.mp hs
    rw [SameParams, hw] at hparams
    obtain ⟨w', hw', hsame⟩ := map_eq_ok.mp hparams.symm
    rw [hw'] at hupdate hdeletion
    refine ⟨origin, w, w', horigin, rfl, hupdate, hdeletion, hsame, fun hfirst => ?_,
      fun hrest hfirst => ?_, fun hlegible v => ?_⟩
    · rw [conjoined_eq_collected hfirst, hw] at hw'
      exact (Except.ok.inj hw').symm
    · obtain ⟨inner, later, hinner, htext, htext'⟩ := render_conjoined hrest hfirst hw
      exact ⟨inner, later, hinner, htext, Except.ok.inj (hw'.symm.trans htext')⟩
    · rw [truth_rendered v (legible_conjoined hlegible) hw',
        truth_rendered v (legible_collected hlegible) hw, truth_eq_value, truth_eq_value,
        value_conjoined, value_collected]
  · have hfilters : selection.filters = first :: rest :=
      congrArg Dataset.filters (foldl_filter _ (first :: rest))
    rw [hfilters, value_conjoined]

/-- A conjunction of two comparisons. -/
def namesake : Expression :=
  ((Column.reference none "no").equals (.integer 7)).and
    ((Column.reference none "town").equals (.text "Rome"))

/-- A raw text that is a disjunction. -/
def grownUp : Expression :=
  .raw "age > ? OR vip" [.integer 18]

theorem filters_agree_conjunction_first :
    let filters := [namesake, grownUp]
    let selection := filters.foldl Dataset.filter (Dataset.empty.fromSource (.table "members" none))
    let deletion := filters.foldl Deletion.filter ⟨"members", none⟩
    namesake.IsConjunction ∧
      (selection.compile .neutral).map Statement.sql =
        .ok "SELECT * FROM members WHERE ((no = ? AND town = ?) AND (age > ? OR vip))" ∧
      (deletion.compile .neutral).map Statement.sql =
        .ok "DELETE FROM members WHERE (no = ? AND town = ? AND (age > ? OR vip))" ∧
      ∃ w w' : Fragment, w'.params = w.params ∧
        selection.compile .neutral =
          .ok ((text "SELECT * FROM members" ++ clause "WHERE" w).finish .neutral) ∧
        deletion.compile .neutral =
          .ok ((text "DELETE FROM members" ++ clause "WHERE" w').finish .neutral) ∧
        (Condition.read (tokens w'.sql)).truth = (Condition.read (tokens w.sql)).truth := by
  intro filters selection deletion
  have hconjunction : namesake.IsConjunction := ⟨_, List.cons_ne_nil _ _, rfl⟩
  have hlegible : ∀ e ∈ filters, e.Legible := by
    unfold Expression.Legible
    decide
  let u : Update := ⟨"members", [("vip", .null)], none⟩
  let q : Deletion := ⟨"members", none⟩
  have hassignments : u.assignments ≠ [] := List.cons_ne_nil _ _
  have hu : u.condition = none := rfl
  have hq : q.condition = none := rfl
  have hname : "members" ≠ "" := by decide
  obtain ⟨-, htexts, -⟩ :=
    filters_agree .neutral none hname hassignments hu hq namesake [grownUp]
  obtain ⟨s, hs⟩ : ∃ s, selection.compile .neutral = .ok s := ⟨_, rfl⟩
  obtain ⟨origin, w, w', horigin, rfl, -, hdeletion, hparams, -, -, htruth⟩ := htexts s hs
  obtain ⟨-, rfl⟩ := render_table_eq_ok.mp horigin
  exact ⟨hconjunction, rfl, rfl, w, w', hparams, hs, hdeletion, funext (htruth hlegible)⟩

end RowMap
