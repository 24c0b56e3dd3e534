import RowMap.Proofs.Condition.Reading
import RowMap.Proofs.Query.Assembled

/-!
# What rendered conditions mean

A condition that is rendered and then read again is the condition that was meant, for every
assignment of truth values to its predicates (`read_render`). Names must be read as names, and the
raw texts of the caller must be balanced; nothing else is asked of them.

The induction is on the condition. Whatever is rendered but a raw text is `Standing`: it can stand
between connectives, where it is read as a whole. Groups stand because of their parentheses,
negations because of those of their operands, comparisons because they hold no connective. A raw
text may hold connectives, so it gets parentheses wherever it becomes a part.
-/

namespace RowMap

open Fragment (text joined parenthesized)
open Sql (Token Paired Closed Bare Balanced Spacer tokens)

/-! ## Names -/

/-- The text is read as a name: without parentheses and quotations, and without keywords. -/
def Sql.IsName (text : String) : Prop :=
  Bare text ∧ tokens text ≠ [] ∧ ∀ t ∈ tokens text, t.isKeyword = false

instance (text : String) : Decidable (Sql.IsName text) :=
  inferInstanceAs (Decidable (_ ∧ _ ∧ _))

open Sql (IsName)

/-- The names in the condition are names, and its raw texts are balanced. -/
def Expression.Legible (e : Expression) : Prop :=
  ∀ x ∈ e.callerTexts, x.Meets IsName Balanced

/-! ## Conditions that are meant -/

/-- The tokens of what is rendered. -/
def renderedTokens : Except CompilationFault Fragment → List Token
  | .ok f => tokens f.sql
  | .error _ => []

mutual

/-- A comparison is a predicate, and a raw text is what it is read as. -/
def Expression.condition (dialect : Dialect) : Expression → Condition
  | .comparison op left right =>
    .predicate (renderedTokens ((Expression.comparison op left right).render dialect))
  | .group k operands => .join k (conditions dialect operands)
  | .negation [operand] => .negation (operand.condition dialect)
  | .negation _ => .predicate []
  | .raw text _ => .read (tokens text)

/-- The meant conditions of a list of operands. -/
def conditions (dialect : Dialect) : List Expression → List Condition
  | [] => []
  | operand :: rest => operand.condition dialect :: conditions dialect rest

end

section Truth

variable (v : List Token → Truth)

mutual

/-- The truth of a condition if that of its predicates is given. -/
def Condition.truth : Condition → Truth
  | .predicate ts => v ts
  | .negation operand => operand.truth.not
  | .group k operands => k.truth (truths operands)

/-- The truths of a list of conditions. -/
def truths : List Condition → List Truth
  | [] => []
  | c :: rest => c.truth :: truths rest

end

mutual

def Expression.truth (dialect : Dialect) : Expression → Truth
  | .comparison op left right =>
    v (renderedTokens ((Expression.comparison op left right).render dialect))
  | .group k operands => k.truth (operandTruths dialect operands)
  | .negation [operand] => (operand.truth dialect).not
  | .negation _ => v []
  | .raw text _ => (Condition.read (tokens text)).truth v

/-- The truths of a list of operands. -/
def operandTruths (dialect : Dialect) : List Expression → List Truth
  | [] => []
  | operand :: rest => operand.truth dialect :: operandTruths dialect rest

end

theorem truths_eq_map (cs : List Condition) : truths v cs = cs.map (·.truth v) := by
  induction cs with
  | nil => rfl
  | cons c rest ih => rw [truths, ih, List.map_cons]

/-- The truth of joined conditions is that of their connective. -/
theorem truth_join (k : Connective) (cs : List Condition) :
    (Condition.join k cs).truth v = k.truth (cs.map (·.truth v)) := by
  match cs with
  | [] => rfl
  | [c] => exact (k.truth_singleton _).symm
  | c :: d :: rest =>
    change (Condition.group k (c :: d :: rest)).truth v = _
    rw [Condition.truth, truths_eq_map]

theorem conditions_eq_map (dialect : Dialect) (es : List Expression) :
    conditions dialect es = es.map (·.condition dialect) := by
  induction es with
  | nil => rfl
  | cons e rest ih => rw [conditions, ih, List.map_cons]

theorem operandTruths_eq_map (dialect : Dialect) (es : List Expression) :
    operandTruths v dialect es = es.map (·.truth v dialect) := by
  induction es with
  | nil => rfl
  | cons e rest ih => rw [operandTruths, ih, List.map_cons]

/-- The truth of the meant condition is the truth of the expression. -/
theorem truth_condition (dialect : Dialect) (e : Expression) :
    (e.condition dialect).truth v = e.truth v dialect := by
  induction e using Expression.of_parts with
  | comparison op left right => rfl
  | group k operands ih =>
    rw [Expression.condition, Expression.truth, truth_join, conditions_eq_map,
      operandTruths_eq_map, List.map_map]
    exact congrArg _ (List.map_congr_left ih)
  | negation operands ih =>
    match operands, ih with
    | [], _ => rfl
    | [operand], ih =>
      rw [Expression.condition, Condition.truth, Expression.truth, ih operand (by simp)]
    | _ :: _ :: _, _ => rfl
  | raw text params => rfl

end Truth

/-! ## Standing between connectives -/

/-- Without a connective, and read as the condition. -/
structure Standing (ts : List Token) (c : Condition) : Prop where
  calm : Calm ts
  factor : Condition.readFactor ts = c

namespace Standing

variable {ts : List Token} {c : Condition}

theorem read (h : Standing ts c) : Condition.read ts = c := by
  rw [Condition.read_calm h.calm, h.factor]

/-- Tokens in parentheses stand for what they are read as. -/
theorem parenthesized (h : Paired ts) (hc : Condition.read ts = c) :
    Standing (.opening :: (ts ++ [.closing])) c := by
  refine ⟨calm_parenthesized h, ?_⟩
  rw [Condition.readFactor_parenthesized h, hc]

/-- A negation in front of standing tokens stands for the negated condition. -/
theorem not (h : Standing ts c) : Standing (.word "NOT".toList :: ts) (.negation c) := by
  have hnot : Calm [.word "NOT".toList] := fun k => by cases k <;> decide
  refine ⟨hnot.append h.calm, ?_⟩
  rw [Condition.readFactor_not, h.factor]

/-- Pieces that stand are calm, and each is read as a factor. -/
theorem of_pieces {pieces : List (List Token)} {cs : List Condition}
    (h : List.Forall₂ Standing pieces cs) :
    (∀ p ∈ pieces, Calm p) ∧ pieces.map Condition.readFactor = cs := by
  induction h with
  | nil => simp
  | cons h _ ih =>
    refine ⟨List.forall_mem_cons.mpr ⟨h.calm, ih.1⟩, ?_⟩
    rw [List.map_cons, h.factor, ih.2]

/-- Standing pieces with one connective between them are read as the joined condition. -/
theorem read_intercalate (k : Connective) {pieces : List (List Token)} {cs : List Condition}
    (hne : pieces ≠ []) (h : List.Forall₂ Standing pieces cs) :
    Condition.read ([k.token].intercalate pieces) = .join k cs := by
  obtain ⟨hcalm, hfactors⟩ := of_pieces h
  rw [Condition.read_intercalate k hne hcalm, hfactors]

end Standing

/-- What is assembled of names and balanced raw texts is balanced. -/
theorem Assembled.balanced {print : Value → String} {f : Fragment} {s : String}
    (h : Assembled print IsName Balanced f s) : Balanced f.sql := by
  induction h with
  | inert h => exact h.bare.balanced
  | name h => exact h.1.balanced
  | bound value => exact (by decide : Balanced "?")
  | raw h _ => exact h
  | append _ _ ihf ihg => exact ihf.append ihg
  | parenthesized _ ih => exact ih.parenthesized

/-- The tokens begin with neither NOT nor a parenthesis. -/
def Leading : List Token → Prop
  | [] => False
  | t :: _ => t.spells "NOT" = false ∧ t ≠ .opening

instance : DecidablePred Leading
  | [] => isFalse id
  | _ :: _ => inferInstanceAs (Decidable (_ ∧ _))

/-- More tokens behind do not change how a list begins. -/
theorem Leading.append {ts : List Token} (h : Leading ts) (us : List Token) :
    Leading (ts ++ us) := by
  cases ts with
  | nil => exact h.elim
  | cons => exact h

/-- Calm tokens that do not begin like a condition of another kind are a predicate. -/
theorem standing_predicate {ts : List Token} (h : Calm ts) (hl : Leading ts) :
    Standing ts (.predicate ts) := by
  refine ⟨h, ?_⟩
  cases ts with
  | nil => exact hl.elim
  | cons t ts => exact Condition.readFactor_predicate ts hl.1 hl.2

/-- A text without connectives that a predicate can begin with. -/
structure Subject (text : String) : Prop where
  closed : Closed text
  calm : Calm (tokens text)
  leading : Leading (tokens text)

/-- A name can be the subject of a predicate. -/
theorem Sql.IsName.subject {text : String} (h : IsName text) : Subject text := by
  obtain ⟨hbare, hne, hwords⟩ := h
  have hflat := hbare.isFlat
  refine ⟨hbare.closed, calm_of_flat fun t ht => ⟨hflat t ht, hwords t ht⟩, ?_⟩
  cases hts : tokens text with
  | nil => exact absurd hts hne
  | cons t ts =>
    have ht : t ∈ tokens text := hts ▸ List.mem_cons_self
    have hword := hwords t ht
    simp only [Token.isKeyword, List.any_cons, Bool.or_eq_false_iff] at hword
    refine ⟨hword.2.2.1, ?_⟩
    rintro rfl
    exact absurd (hflat _ ht) (by decide)

/-- A subject stays one with a calm text behind it. -/
theorem Subject.append {a b : String} (ha : Subject a) (hb : Closed b)
    (hhead : b.toList.head?.all (!Sql.isWordChar ·) = true) (hc : Calm (tokens b)) :
    Subject (a ++ b) := by
  have htokens := Sql.tokens_append_of_head ha.closed hhead
  refine ⟨ha.closed.append hb, ?_, ?_⟩
  · rw [htokens]
    exact ha.calm.append hc
  · rw [htokens]
    exact ha.leading.append _

/-- A subject stays one with a calm text behind it, a spacer between the two. -/
theorem Subject.append_append {a s b : String} (ha : Subject a) (hs : Spacer s)
    (hcs : Calm (tokens s)) (hb : Closed b) (hc : Calm (tokens b)) : Subject (a ++ s ++ b) := by
  have htokens := Sql.tokens_append_append (b := b) ha.closed hs
  refine ⟨(ha.closed.append hs.1).append hb, ?_, ?_⟩
  · rw [htokens]
    exact (ha.calm.append hcs).append hc
  · rw [htokens, List.append_assoc]
    exact ha.leading.append _

/-- A balanced text is calm once it is in parentheses. -/
theorem calm_of_balanced {text : String} (h : Balanced text) :
    Calm (tokens ("(" ++ text ++ ")")) := by
  rw [Sql.tokens_parenthesized h.1]
  exact calm_parenthesized h.2

/-- No operator holds a connective, with or without a blank behind it. -/
theorem calm_operator (op : Comparison) :
    Calm (tokens (" " ++ op.sql)) ∧ Calm (tokens (" " ++ op.sql ++ " ")) := by
  refine ⟨fun k => ?_, fun k => ?_⟩ <;> cases k <;> cases op <;> decide

/-- Columns rendered from names and balanced raw texts are balanced. -/
theorem columns_balanced {cs : List Column} (h : ∀ x ∈ columnTexts cs, x.Meets IsName Balanced)
    {position : Position} {fs : List Fragment} (hfs : renderColumns position cs = .ok fs) :
    Balanced (joined ", " fs).sql := by
  have hall : List.Forall₂ (Assembled Value.display IsName Balanced) fs _ :=
    columns_assembled cs h hfs
  exact (Assembled.joined (by decide) hall).balanced

/-- A rendered column can be the subject of a predicate. -/
theorem column_subject {c : Column} (h : ∀ x ∈ c.callerTexts, x.Meets IsName Balanced)
    {f : Fragment} (hf : c.render .nested = .ok f) : Subject f.sql := by
  cases c with
  | reference table name =>
    obtain ⟨-, rfl⟩ := render_reference_eq_ok.mp hf
    cases table with
    | none =>
      have hn : IsName name := h (.name name) (by simp [Column.callerTexts])
      exact hn.subject
    | some table =>
      have ht : IsName table := h (.name table) (by simp [Column.callerTexts])
      have hn : IsName name := h (.name name) (by simp [Column.callerTexts])
      have hpoint : Calm (tokens ".") := fun k => by cases k <;> decide
      exact ht.subject.append_append (by decide) hpoint hn.subject.closed hn.subject.calm
  | call function arguments =>
    obtain ⟨-, fs, hfs, rfl⟩ := render_call_eq_ok.mp hf
    obtain ⟨hn, ha⟩ := List.forall_mem_cons.mp h
    have hn : IsName function := hn
    have hb := columns_balanced ha hfs
    have hparen : Sql.isWordChar '(' = false := by decide
    have hhead : ("(" ++ (joined ", " fs).sql ++ ")").toList.head?.all (!Sql.isWordChar ·) =
        true := by simpa using hparen
    exact hn.subject.append hb.parenthesized.1 hhead (calm_of_balanced hb)
  | literal value =>
    obtain rfl := render_literal_eq_ok.mp hf
    have hnull : Subject "NULL" := ⟨by decide, fun k => by cases k <;> decide, by decide⟩
    have hmark : Subject "?" := ⟨by decide, fun k => by cases k <;> decide, by decide⟩
    cases value with
    | null => exact hnull
    | _ => exact hmark
  | aliased inner label =>
    rcases render_aliased_eq_ok.mp hf with ⟨hp, -⟩ | ⟨hp, -⟩ <;> cases hp

/-- A rendered right-hand side is closed and calm. -/
theorem operand_calm {o : Operand} (h : ∀ x ∈ o.callerTexts, x.Meets IsName Balanced)
    {dialect : Dialect} {op : Comparison} {f : Fragment} (hf : o.render dialect op = .ok f) :
    Closed f.sql ∧ Calm (tokens f.sql) := by
  cases o with
  | single column =>
    have := column_subject h (render_single_eq_ok.mp hf).2
    exact ⟨this.closed, this.calm⟩
  | list columns =>
    obtain ⟨-, -, fs, hfs, rfl⟩ := render_list_eq_ok.mp hf
    have hb := columns_balanced h hfs
    exact ⟨hb.parenthesized.1, calm_of_balanced hb⟩
  | subquery dataset =>
    obtain ⟨-, g, hg, rfl⟩ := render_subquery_eq_ok.mp hf
    have hassembled : Assembled Value.display IsName Balanced g _ := dataset.assembled h hg
    have hb := hassembled.balanced
    exact ⟨hb.parenthesized.1, calm_of_balanced hb⟩

/-- A rendered comparison stands for itself between connectives. -/
theorem comparison_standing {op : Comparison} {left : Option Column} {right : Option Operand}
    (h : (Expression.comparison op left right).Legible) {dialect : Dialect} {f : Fragment}
    (hf : (Expression.comparison op left right).render dialect = .ok f) :
    Standing (tokens f.sql) ((Expression.comparison op left right).condition dialect) := by
  have hspace : Sql.isWordChar ' ' = false := by decide
  have hsubject : Subject f.sql := by
    rw [Expression.Legible, texts_comparison, List.forall_mem_append] at h
    obtain ⟨column, g, rfl, hg, hf⟩ := render_comparison_eq_ok.mp hf
    have hleft := column_subject h.1 hg
    rcases hf with ⟨test, -, rfl⟩ | ⟨-, -, -, rfl⟩ | ⟨-, -, operand, k, rfl, hk, rfl⟩
    · exact hleft.append (by cases test <;> decide) (by simpa using hspace) (calm_operator test).1
    · exact hleft.append (by cases op <;> decide) (by simpa using hspace) (calm_operator op).1
    · obtain ⟨hclosed, hcalm⟩ := operand_calm h.2 hk
      exact hleft.append_append (by cases op <;> decide) (calm_operator op).2 hclosed hcalm
  rw [Expression.condition, hf]
  exact standing_predicate hsubject.calm hsubject.leading

variable {dialect : Dialect}

/-- What is rendered stands between connectives, a raw text in parentheses. -/
def Expression.Stands (dialect : Dialect) (e : Expression) : Prop :=
  e.Legible → ∀ {f : Fragment}, e.render dialect = .ok f →
    Standing (tokens (if e.isRaw then f.parenthesized else f).sql) (e.condition dialect)

/-- A legible condition renders to a balanced text. -/
theorem Expression.balanced {e : Expression} (h : e.Legible) {f : Fragment}
    (hf : e.render dialect = .ok f) : Balanced f.sql := by
  have hassembled : Assembled Value.display IsName Balanced f _ := e.assembled h hf
  exact hassembled.balanced

/-- A condition in parentheses is read as what is within. -/
theorem standing_of_read {f : Fragment} (h : Balanced f.sql) {c : Condition}
    (hc : Condition.read (tokens f.sql) = c) : Standing (tokens f.parenthesized.sql) c := by
  have htokens : tokens f.parenthesized.sql = .opening :: (tokens f.sql ++ [.closing]) :=
    Sql.tokens_parenthesized h.1
  rw [htokens]
  exact .parenthesized h.2 hc

theorem Expression.Stands.read {e : Expression} (ih : e.Stands dialect) (h : e.Legible)
    {f : Fragment} (hf : e.render dialect = .ok f) :
    Condition.read (tokens f.sql) = e.condition dialect := by
  cases e with
  | raw text params =>
    obtain ⟨-, rfl⟩ := render_raw_eq_ok.mp hf
    rfl
  | _ => exact (ih h hf).read

/-- Operands as a group renders them stand for their conditions and are balanced. -/
theorem operands_standing : {es : List Expression} → (∀ e ∈ es, e.Stands dialect) →
    (∀ x ∈ operandTexts es, x.Meets IsName Balanced) → {fs : List Fragment} →
    renderOperands dialect es = .ok fs →
    List.Forall₂ Standing (fs.map (tokens ·.sql)) (conditions dialect es) ∧
      ∀ f ∈ fs, Balanced f.sql
  | [], _, _, fs, hfs => by
    obtain rfl : [] = fs := by simpa [renderOperands] using hfs
    exact ⟨.nil, by simp⟩
  | e :: rest, ih, h, fs, hfs => by
    obtain ⟨f, hf, gs, hgs, rfl⟩ := renderOperands_cons_eq_ok.mp hfs
    obtain ⟨ihe, ihr⟩ := List.forall_mem_cons.mp ih
    obtain ⟨he, hr⟩ := List.forall_mem_append.mp h
    obtain ⟨hstanding, hbalanced⟩ := operands_standing ihr hr hgs
    refine ⟨.cons (ihe he hf) hstanding, List.forall_mem_cons.mpr ⟨?_, hbalanced⟩⟩
    have := Expression.balanced he hf
    split
    · exact this.parenthesized
    · exact this

/-- The connective is read between each two fragments. -/
theorem tokens_joined (k : Connective) : {fs : List Fragment} → (∀ f ∈ fs, Balanced f.sql) →
    tokens (joined (" " ++ k.sql ++ " ") fs).sql = [k.token].intercalate (fs.map (tokens ·.sql))
  | [], _ => rfl
  | [f], _ => by
    rw [List.map_singleton, List.intercalate_singleton]
    rfl
  | f :: g :: rest, h => by
    obtain ⟨hf, hr⟩ := List.forall_mem_cons.mp h
    have hspacer : Spacer (" " ++ k.sql ++ " ") := by cases k <;> decide
    have htoken : tokens (" " ++ k.sql ++ " ") = [k.token] := by cases k <;> decide
    have hsql : (joined (" " ++ k.sql ++ " ") (f :: g :: rest)).sql =
      f.sql ++ (" " ++ k.sql ++ " ") ++ (joined (" " ++ k.sql ++ " ") (g :: rest)).sql := rfl
    rw [hsql, Sql.tokens_append_append hf.1 hspacer, htoken, tokens_joined k hr]
    simp only [List.map_cons, List.intercalate_cons_cons]

/-- Balanced texts with a connective between them are balanced. -/
theorem joined_balanced (k : Connective) : {fs : List Fragment} → (∀ f ∈ fs, Balanced f.sql) →
    Balanced (joined (" " ++ k.sql ++ " ") fs).sql
  | [], _ => (by decide : Balanced "")
  | [f], h => h f (by simp)
  | f :: g :: rest, h => by
    obtain ⟨hf, hr⟩ := List.forall_mem_cons.mp h
    have hk : Balanced (" " ++ k.sql ++ " ") := by cases k <;> decide
    exact (hf.append hk).append (joined_balanced k hr)

/-- A group stands for its operands joined, if each operand stands for itself. -/
theorem group_stands {k : Connective} {operands : List Expression}
    (ih : ∀ e ∈ operands, e.Stands dialect) : (Expression.group k operands).Stands dialect := by
  intro h f hf
  obtain ⟨hne, fs, hfs, rfl⟩ := render_group_eq_ok.mp hf
  obtain ⟨hstanding, hbalanced⟩ := operands_standing ih h hfs
  have hpieces : fs.map (tokens ·.sql) ≠ [] := by
    rintro hnil
    rw [hnil] at hstanding
    cases operands with
    | nil => exact hne rfl
    | cons => cases hstanding
  have hread := Standing.read_intercalate k hpieces hstanding
  rw [← tokens_joined k hbalanced] at hread
  rw [Expression.condition]
  exact standing_of_read (joined_balanced k hbalanced) hread

/-- A negation stands for its operand negated, if that stands for itself. -/
theorem negation_stands {operands : List Expression}
    (ih : ∀ e ∈ operands, e.Stands dialect) : (Expression.negation operands).Stands dialect := by
  intro h f hf
  obtain ⟨operand, g, rfl, hg, rfl⟩ := render_negation_eq_ok.mp hf
  have ho : operand.Legible := fun x hx => h x (by simpa [Expression.callerTexts, operandTexts])
  have hstands := ih operand (by simp)
  have hrest : Standing (tokens (if operand.isGroup then g else g.parenthesized).sql)
      (operand.condition dialect) := by
    cases hgroup : operand.isGroup with
    | true =>
      have hraw : operand.isRaw = false := by
        cases operand <;> first | rfl | cases hgroup
      simpa [hraw] using hstands ho hg
    | false => exact standing_of_read (Expression.balanced ho hg) (hstands.read ho hg)
  have hnot : Closed "NOT " := by decide
  have htokens : tokens "NOT " = [.word "NOT".toList] := by decide
  rw [Expression.condition]
  change Standing (tokens ("NOT " ++ _)) _
  rw [Sql.tokens_append_of_last hnot (by decide), htokens]
  exact hrest.not

/-- Every legible condition stands for what is meant by it. -/
theorem Expression.stands (e : Expression) : e.Stands dialect := by
  induction e using Expression.of_parts with
  | comparison op left right => exact fun h _ hf => comparison_standing h hf
  | group k operands ih => exact group_stands ih
  | negation operands ih => exact negation_stands ih
  | raw text params =>
    intro h f hf
    obtain ⟨-, rfl⟩ := render_raw_eq_ok.mp hf
    exact standing_of_read (Expression.balanced h hf) rfl

/-! ## Combined conditions -/

variable {a b : Expression} {k : Connective}

/-- The truth of a group is that of its connective. -/
theorem truth_group (v : List Token → Truth) (operands : List Expression) :
    (Expression.group k operands).truth v dialect =
      k.truth (operands.map (·.truth v dialect)) := by
  rw [Expression.truth, operandTruths_eq_map]

/-- What is combined is a group of the operands before and the new one. -/
theorem combine_eq_group (k : Connective) (a b : Expression) :
    a.combine k b = .group k [a, b] ∨
      ∃ operands, operands ≠ [] ∧ a = .group k operands ∧
        a.combine k b = .group k (operands ++ [b]) := by
  cases a with
  | group c operands =>
    rw [Expression.combine]
    split
    · obtain ⟨rfl, hne⟩ := ‹c = k ∧ operands ≠ []›
      exact .inr ⟨operands, hne, rfl, rfl⟩
    · exact .inl rfl
  | _ => exact .inl rfl

/-- The texts of two lists of operands stand one behind the other. -/
theorem operandTexts_append : (es fs : List Expression) →
    operandTexts (es ++ fs) = operandTexts es ++ operandTexts fs
  | [], _ => rfl
  | e :: rest, fs => by
    rw [List.cons_append, operandTexts, operandTexts_append rest fs, operandTexts,
      List.append_assoc]

/-- Lists of operands that render, render together. -/
theorem renderOperands_append_eq_ok : {es es' : List Expression} → {fs fs' : List Fragment} →
    renderOperands dialect es = .ok fs → renderOperands dialect es' = .ok fs' →
    renderOperands dialect (es ++ es') = .ok (fs ++ fs')
  | [], _, _, _, hfs, h => by
    obtain rfl := Except.ok.inj hfs
    exact h
  | e :: rest, _, _, _, hfs, h => by
    obtain ⟨f, hf, gs, hgs, rfl⟩ := renderOperands_cons_eq_ok.mp hfs
    exact renderOperands_cons_eq_ok.mpr ⟨f, hf, _, renderOperands_append_eq_ok hgs h, rfl⟩

theorem renderOperands_singleton {e : Expression} {f : Fragment} (hf : e.render dialect = .ok f) :
    renderOperands dialect [e] = .ok [if e.isRaw then f.parenthesized else f] :=
  renderOperands_cons_eq_ok.mpr ⟨f, hf, [], rfl, rfl⟩

/-- Legible conditions combine to a legible one. -/
theorem combine_legible (ha : a.Legible) (hb : b.Legible) : (a.combine k b).Legible := by
  have hsplit : ∀ es, operandTexts (es ++ [b]) = operandTexts es ++ b.callerTexts := by
    intro es
    rw [operandTexts_append, operandTexts, operandTexts, List.append_nil]
  rcases combine_eq_group k a b with h | ⟨operands, -, rfl, h⟩
  · rw [h, Expression.Legible, Expression.callerTexts, ← List.singleton_append, hsplit,
      List.forall_mem_append]
    exact ⟨fun x hx => ha x (by simpa [operandTexts] using hx), hb⟩
  · rw [h, Expression.Legible, Expression.callerTexts, hsplit, List.forall_mem_append]
    exact ⟨ha, hb⟩

/-- Conditions that render, render combined. -/
theorem exists_render_combine {f g : Fragment} (hf : a.render dialect = .ok f)
    (hg : b.render dialect = .ok g) : ∃ h, (a.combine k b).render dialect = .ok h := by
  have hb := renderOperands_singleton hg
  rcases combine_eq_group k a b with h | ⟨operands, hne, rfl, h⟩
  · have hab := renderOperands_append_eq_ok (renderOperands_singleton hf) hb
    exact ⟨_, h ▸ render_group_eq_ok.mpr ⟨by simp, _, hab, rfl⟩⟩
  · obtain ⟨-, fs, hfs, -⟩ := render_group_eq_ok.mp hf
    exact ⟨_, h ▸ render_group_eq_ok.mpr
      ⟨by simp, _, renderOperands_append_eq_ok hfs hb, rfl⟩⟩

/-- A group that takes in a condition has the value of both, as the connective is associative. -/
theorem truth_combine (v : List Token → Truth) :
    (a.combine k b).truth v dialect = k.combine (a.truth v dialect) (b.truth v dialect) := by
  rcases combine_eq_group k a b with h | ⟨operands, -, rfl, h⟩
  · rw [h, truth_group, List.map_cons, List.map_singleton, ← List.singleton_append, k.truth_append,
      k.truth_singleton, k.truth_singleton]
  · rw [h, truth_group, truth_group, List.map_append, List.map_singleton, k.truth_append,
      k.truth_singleton]

/-- A rendered condition is read as what is meant by it. -/
theorem read_rendered (h : a.Legible) {f : Fragment} (hf : a.render dialect = .ok f) :
    Condition.read (tokens f.sql) = a.condition dialect :=
  a.stands.read h hf

/-- A rendered condition has the truth of what is meant by it. -/
theorem truth_rendered (v : List Token → Truth) (h : a.Legible) {f : Fragment}
    (hf : a.render dialect = .ok f) :
    (Condition.read (tokens f.sql)).truth v = a.truth v dialect := by
  rw [read_rendered h hf, truth_condition]

/-- A rendered combination has the combined truth of its rendered parts. -/
theorem truth_rendered_combine (v : List Token → Truth) (ha : a.Legible) (hb : b.Legible)
    {f g : Fragment} (hf : a.render dialect = .ok f) (hg : b.render dialect = .ok g) :
    ∃ h, (a.combine k b).render dialect = .ok h ∧
      (Condition.read (tokens h.sql)).truth v =
        k.combine ((Condition.read (tokens f.sql)).truth v)
          ((Condition.read (tokens g.sql)).truth v) := by
  obtain ⟨h, hh⟩ := exists_render_combine (k := k) hf hg
  refine ⟨h, hh, ?_⟩
  rw [truth_rendered v (combine_legible ha hb) hh, truth_combine, truth_rendered v ha hf,
    truth_rendered v hb hg]

/-- The text of a condition is read as the condition that was meant, predicate by predicate, and has
its truth value. Adding a condition with AND or OR gives the text the value of both. -/
theorem read_render (dialect : Dialect) (v : List Token → Truth) (a : Expression)
    (ha : a.Legible) {f : Fragment} (hf : a.render dialect = .ok f) :
    Condition.read (tokens f.sql) = a.condition dialect ∧
    (Condition.read (tokens f.sql)).truth v = a.truth v dialect ∧
    ∀ (b : Expression) (g : Fragment), b.Legible → b.render dialect = .ok g →
      (∃ h, (a.and b).render dialect = .ok h ∧
        (Condition.read (tokens h.sql)).truth v =
          ((Condition.read (tokens f.sql)).truth v).and
            ((Condition.read (tokens g.sql)).truth v)) ∧
      (∃ h, (a.or b).render dialect = .ok h ∧
        (Condition.read (tokens h.sql)).truth v =
          ((Condition.read (tokens f.sql)).truth v).or
            ((Condition.read (tokens g.sql)).truth v)) := by
  refine ⟨read_rendered ha hf, truth_rendered v ha hf, fun b g hb hg => ⟨?_, ?_⟩⟩
  · exact truth_rendered_combine (k := .conjunction) v ha hb hf hg
  · exact truth_rendered_combine (k := .disjunction) v ha hb hf hg

/-- A comparison and the negation of a raw text that is a disjunction. -/
def elsewhere : Expression :=
  ((Column.named "no").equals (.integer 7)).and
    (.negate (.raw "town = 'Rome AND Bath' OR age BETWEEN 3 AND ?" [.integer 9]))

theorem read_render_elsewhere :
    elsewhere.Legible ∧ ∃ f, elsewhere.render .neutral = .ok f ∧
      f.sql = "(no = ? AND NOT (town = 'Rome AND Bath' OR age BETWEEN 3 AND ?))" ∧
      ∀ v, (Condition.read (tokens f.sql)).truth v = elsewhere.truth v .neutral ∧
        ∃ g, (elsewhere.or elsewhere).render .neutral = .ok g ∧
          (Condition.read (tokens g.sql)).truth v = (elsewhere.truth v .neutral).or
            (elsewhere.truth v .neutral) := by
  have hlegible : elsewhere.Legible := by
    unfold Expression.Legible
    decide
  obtain ⟨f, hf⟩ : ∃ f, elsewhere.render .neutral = .ok f := ⟨_, rfl⟩
  refine ⟨hlegible, f, hf, ?_, fun v => ?_⟩
  · obtain rfl := Except.ok.inj hf
    rfl
  · obtain ⟨-, htruth, hcombined⟩ := read_render .neutral v elsewhere hlegible hf
    obtain ⟨-, g, hg, hor⟩ := hcombined elsewhere f hlegible hf
    exact ⟨htruth, g, hg, by rw [hor, htruth]⟩

end RowMap
