import RowMap.Query.Render

/-!
# The order of refinements

A dataset is refined call by call, and each call touches one clause. What a list of calls makes of
a dataset can be read off clause by clause: columns, joins, conditions and keys are appended, and of
a source, a group condition or a bound the last one stays (`Dataset.refineAll_eq`).

So only the order of the calls for one clause matters, a call that a later one replaces can be left
out, and two lists that are appended one after the other can be appended at once
(`Dataset.refineAll_order`).
-/

namespace RowMap

/-- A call that refines a dataset. -/
inductive Refinement where
  | select (columns : List Column)
  | source (origin : Source)
  | join (kind : JoinKind) (origin : Source) (condition : Expression)
  | filter (condition : Expression)
  | groupBy (keys : List Column)
  | having (condition : Expression)
  | orderBy (keys : List OrderKey)
  | limit (bound : Int64)
  | offset (bound : Int64)

/-- The parts of a dataset that a call can change. -/
inductive Clause where
  | projections
  | source
  | joins
  | filters
  | groupKeys
  | groupFilter
  | orderKeys
  | limit
  | offset
  deriving DecidableEq

namespace Refinement

/-- The clause that a call is about. -/
def clause : Refinement → Clause
  | .select _ => .projections
  | .source _ => .source
  | .join .. => .joins
  | .filter _ => .filters
  | .groupBy _ => .groupKeys
  | .having _ => .groupFilter
  | .orderBy _ => .orderKeys
  | .limit _ => .limit
  | .offset _ => .offset

/-- A bound is not negative. -/
def Allowed : Refinement → Prop
  | .limit bound | .offset bound => 0 ≤ bound
  | _ => True

instance : DecidablePred Allowed
  | .limit _ | .offset _ => inferInstanceAs (Decidable (_ ≤ _))
  | .select _ | .source _ | .join .. | .filter _ | .groupBy _ | .having _ | .orderBy _ =>
    inferInstanceAs (Decidable True)

/-- Whether a call replaces what an earlier one for the same clause has set. -/
def replaces : Refinement → Bool
  | .source _ | .having _ | .limit _ | .offset _ => true
  | _ => false

/-- The calls without those that a later one replaces. -/
def lasting : List Refinement → List Refinement
  | [] => []
  | r :: rest =>
    if r.replaces && rest.any (·.clause = r.clause) then lasting rest else r :: lasting rest

/-- Leaving out replaced calls keeps the order of the others. -/
theorem lasting_sublist (rs : List Refinement) : (lasting rs).Sublist rs := by
  induction rs with
  | nil => exact .slnil
  | cons r rest ih =>
    rw [lasting]
    split
    · exact ih.cons r
    · exact ih.cons_cons r

/-- One call for two that append to the same list. -/
def merge? : Refinement → Refinement → Option Refinement
  | .select columns, .select columns' => some (.select (columns ++ columns'))
  | .groupBy keys, .groupBy keys' => some (.groupBy (keys ++ keys'))
  | .orderBy keys, .orderBy keys' => some (.orderBy (keys ++ keys'))
  | _, _ => none

theorem allowed_merge? {r r' merged : Refinement} (h : r.merge? r' = some merged) :
    merged.Allowed := by
  cases r <;> cases r' <;> cases h <;> trivial

end Refinement

namespace Dataset

/-- What one call makes of a dataset. -/
def refine (d : Dataset) : Refinement → Except NegativeBound Dataset
  | .select columns => .ok (d.select columns)
  | .source origin => .ok (d.fromSource origin)
  | .join kind origin condition => .ok (d.join kind origin condition)
  | .filter condition => .ok (d.filter condition)
  | .groupBy keys => .ok (d.groupBy keys)
  | .having condition => .ok (d.having condition)
  | .orderBy keys => .ok (d.orderBy keys)
  | .limit bound => d.withLimit bound
  | .offset bound => d.withOffset bound

/-- Calls one after the other, up to the first bound that is refused. -/
def refineAll (d : Dataset) (rs : List Refinement) : Except NegativeBound Dataset :=
  rs.foldlM refine d

end Dataset

/-! ## Clause by clause -/

namespace Refinement

/-- What a call says of each clause; most it leaves empty. -/
def addition : Refinement → Dataset
  | .select columns => { Dataset.empty with projections := columns }
  | .source origin => { Dataset.empty with source := some origin }
  | .join kind origin condition => { Dataset.empty with joins := [⟨kind, origin, condition⟩] }
  | .filter condition => { Dataset.empty with filters := [condition] }
  | .groupBy keys => { Dataset.empty with groupKeys := keys }
  | .having condition => { Dataset.empty with groupFilter := some condition }
  | .orderBy keys => { Dataset.empty with orderKeys := keys }
  | .limit bound => { Dataset.empty with limit := some bound.toUInt64 }
  | .offset bound => { Dataset.empty with offset := some bound.toUInt64 }

/-- What calls say of a clause from which they append. -/
def listed {α : Type} (part : Dataset → List α) (rs : List Refinement) : List α :=
  rs.flatMap fun r => part r.addition

/-- What calls say of a clause that they replace: the last one that says anything counts. -/
def last? {α : Type} (part : Dataset → Option α) (rs : List Refinement) : Option α :=
  (rs.filterMap fun r => part r.addition).getLast?

@[simp] theorem listed_singleton {α : Type} (part : Dataset → List α) (r : Refinement) :
    listed part [r] = part r.addition := by
  rw [listed, List.flatMap_singleton]

@[simp] theorem last?_singleton {α : Type} (part : Dataset → Option α) (r : Refinement) :
    last? part [r] = part r.addition := by
  cases h : part r.addition <;> simp [last?, h]

end Refinement

namespace Dataset

open Refinement (listed last? lasting)

/-- The dataset with all that the calls say. -/
def refined (d : Dataset) (rs : List Refinement) : Dataset where
  projections := d.projections ++ listed projections rs
  source := (last? source rs).or d.source
  joins := d.joins ++ listed joins rs
  filters := d.filters ++ listed filters rs
  groupKeys := d.groupKeys ++ listed groupKeys rs
  groupFilter := (last? groupFilter rs).or d.groupFilter
  orderKeys := d.orderKeys ++ listed orderKeys rs
  limit := (last? limit rs).or d.limit
  offset := (last? offset rs).or d.offset

/-- Calls are made one after the other. -/
theorem refined_append (d : Dataset) (rs rs' : List Refinement) :
    d.refined (rs ++ rs') = (d.refined rs).refined rs' := by
  simp only [refined, listed, last?, List.flatMap_append, List.filterMap_append,
    List.getLast?_append, List.append_assoc, Option.or_assoc]

/-- A bound that is not negative is a number of rows. -/
theorem rows_eq_ok {clause : String} {bound : Int64} (h : 0 ≤ bound) :
    rows clause bound = .ok bound.toUInt64 := by
  have hneg : ¬bound < 0 := Int64.not_lt.mpr h
  rw [rows, if_neg hneg]

/-- One call. -/
theorem refine_eq (d : Dataset) {r : Refinement} (h : r.Allowed) :
    d.refine r = .ok (d.refined [r]) := by
  cases r with
  | limit bound =>
    rw [refine, withLimit, rows_eq_ok h]
    simp [refined, Refinement.addition, empty, bind, Except.bind, pure, Except.pure]
  | offset bound =>
    rw [refine, withOffset, rows_eq_ok h]
    simp [refined, Refinement.addition, empty, bind, Except.bind, pure, Except.pure]
  | _ =>
    simp [refine, select, fromSource, join, filter, groupBy, having, orderBy, refined,
      Refinement.addition, empty]

/-- Any number of calls, none of which is refused. -/
theorem refineAll_eq (d : Dataset) {rs : List Refinement} (h : ∀ r ∈ rs, r.Allowed) :
    d.refineAll rs = .ok (d.refined rs) := by
  induction rs generalizing d with
  | nil =>
    cases d
    simp [refineAll, refined, listed, last?, pure, Except.pure]
  | cons r rest ih =>
    obtain ⟨hr, hrest⟩ := List.forall_mem_cons.mp h
    rw [refineAll, List.foldlM_cons, d.refine_eq hr]
    change (d.refined [r]).refineAll rest = _
    rw [ih _ hrest, ← refined_append, List.singleton_append]

end Dataset

/-! ## Calls for one clause -/

namespace Refinement

variable {α : Type} {k : Clause} {rs rs' : List Refinement}

/-- What is listed in a clause is listed by the calls for it. -/
theorem listed_filter {part : Dataset → List α}
    (h : ∀ r : Refinement, r.clause ≠ k → part r.addition = []) (rs : List Refinement) :
    listed part (rs.filter (·.clause = k)) = listed part rs := by
  induction rs with
  | nil => rfl
  | cons r rest ih =>
    rw [listed] at *
    by_cases hr : r.clause = k
    · rw [List.filter_cons_of_pos (by simpa using hr), List.flatMap_cons, ih]
      rfl
    · rw [List.filter_cons_of_neg (by simpa using hr), ih]
      simp [listed, h r hr]

/-- Calls for other clauses do not matter for what a clause ends up with. -/
theorem last?_filter {part : Dataset → Option α}
    (h : ∀ r : Refinement, r.clause ≠ k → part r.addition = none) (rs : List Refinement) :
    last? part (rs.filter (·.clause = k)) = last? part rs := by
  rw [last?, last?, List.filterMap_filter]
  congr 2
  funext r
  by_cases hr : r.clause = k
  · simp [hr]
  · simp [hr, h r hr]

/-- What was there before does not count if a call says anything. -/
theorem last?_or {part : Dataset → Option α} {r : Refinement} (hr : r ∈ rs)
    (h : (part r.addition).isSome = true) (b c : Option α) :
    (last? part rs).or b = (last? part rs).or c := by
  obtain ⟨a, ha⟩ := Option.isSome_iff_exists.mp h
  have hne : rs.filterMap (fun r => part r.addition) ≠ [] :=
    List.ne_nil_of_mem (List.mem_filterMap.mpr ⟨r, hr, ha⟩)
  rw [last?, List.getLast?_eq_some_getLast hne]
  rfl

end Refinement

namespace Dataset

open Refinement (listed last? lasting listed_singleton last?_singleton listed_filter last?_filter
  last?_or lasting_sublist allowed_merge?)

/-- The calls for each clause decide what the clause becomes. -/
theorem refined_congr (d : Dataset) {rs rs' : List Refinement}
    (h : ∀ k, rs.filter (·.clause = k) = rs'.filter (·.clause = k)) :
    d.refined rs = d.refined rs' := by
  have lists : ∀ {α : Type} {part : Dataset → List α} (k : Clause),
      (∀ r : Refinement, r.clause ≠ k → part r.addition = []) → listed part rs = listed part rs' :=
    fun k hk => by rw [← listed_filter hk, h k, listed_filter hk]
  have lasts : ∀ {α : Type} {part : Dataset → Option α} (k : Clause),
      (∀ r : Refinement, r.clause ≠ k → part r.addition = none) → last? part rs = last? part rs' :=
    fun k hk => by rw [← last?_filter hk, h k, last?_filter hk]
  rw [refined, refined, lists .projections ?_, lasts .source ?_, lists .joins ?_, lists .filters ?_,
    lists .groupKeys ?_, lasts .groupFilter ?_, lists .orderKeys ?_, lasts .limit ?_,
    lasts .offset ?_]
  all_goals
    rintro (_ | _ | _ | _ | _ | _ | _ | _ | _) hr <;> first | rfl | exact absurd rfl hr

/-- A call that replaces leaves no trace if there is a later one for its clause. -/
theorem refined_replaced (d : Dataset) {r later : Refinement} {rest : List Refinement}
    (hr : r.replaces = true) (hlater : later ∈ rest) (hclause : later.clause = r.clause) :
    (d.refined [r]).refined rest = d.refined rest := by
  have lost : ∀ {α : Type} {part : Dataset → Option α}, (part later.addition).isSome = true →
      ∀ b c, (last? part rest).or b = (last? part rest).or c := fun h => last?_or hlater h
  cases r with
  | source _ | having _ | limit _ | offset _ =>
    cases later <;> cases hclause
    simp only [refined, last?_singleton, listed_singleton, Refinement.addition, empty,
      List.append_nil, Option.none_or]
    congr 1
    refine lost ?_ _ _
    rfl
  | select _ | join _ _ _ | filter _ | groupBy _ | orderBy _ => cases hr

/-- Replaced calls can be left out. -/
theorem refined_lasting (d : Dataset) (rs : List Refinement) :
    d.refined (lasting rs) = d.refined rs := by
  induction rs generalizing d with
  | nil => rfl
  | cons r rest ih =>
    have hfirst : d.refined (r :: rest) = (d.refined [r]).refined rest :=
      d.refined_append [r] rest
    rw [lasting, hfirst]
    split
    · rename_i hreplaced
      simp only [Bool.and_eq_true, List.any_eq_true, decide_eq_true_eq] at hreplaced
      obtain ⟨hr, later, hlater, hclause⟩ := hreplaced
      rw [ih, d.refined_replaced hr hlater hclause]
    · have hsame : d.refined (r :: lasting rest) = (d.refined [r]).refined (lasting rest) :=
        d.refined_append [r] (lasting rest)
      rw [hsame, ih]

/-- Two calls that merge can be made as one. -/
theorem refined_merge? (d : Dataset) {r r' merged : Refinement} (h : r.merge? r' = some merged) :
    d.refined [r, r'] = d.refined [merged] := by
  have hpair : d.refined [r, r'] = (d.refined [r]).refined [r'] := d.refined_append [r] [r']
  rw [hpair]
  cases r <;> cases r' <;> cases h <;>
    simp [refined, Refinement.addition, empty]

/-- The datasets of two lists of calls are the same if the calls for each clause are the same in the
same order. So they are if of the calls that replace each other only the last one is made, or if one
call appends what two in a row would. Being the same, they compile alike in every dialect, and
wherever they stand in another query. -/
theorem refineAll_order (d : Dataset) (rs : List Refinement) (h : ∀ r ∈ rs, r.Allowed) :
    ∃ q, d.refineAll rs = .ok q ∧
      (∀ rs' : List Refinement,
        (∀ k, rs'.filter (·.clause = k) = rs.filter (·.clause = k)) → d.refineAll rs' = .ok q) ∧
      d.refineAll (lasting rs) = .ok q ∧
      ∀ before r r' merged after, rs = before ++ r :: r' :: after → r.merge? r' = some merged →
        d.refineAll (before ++ merged :: after) = .ok q := by
  refine ⟨d.refined rs, d.refineAll_eq h, fun rs' hsame => ?_, ?_, ?_⟩
  · have hallowed : ∀ r ∈ rs', r.Allowed := by
      intro r hr
      have hmem : r ∈ rs'.filter (·.clause = r.clause) := List.mem_filter.mpr ⟨hr, by simp⟩
      rw [hsame] at hmem
      exact h r (List.mem_filter.mp hmem).1
    rw [d.refineAll_eq hallowed, d.refined_congr hsame]
  · have hallowed : ∀ r ∈ lasting rs, r.Allowed := fun r hr => h r ((lasting_sublist rs).mem hr)
    rw [d.refineAll_eq hallowed, d.refined_lasting]
  · rintro before r r' merged after rfl hmerged
    obtain ⟨hbefore, hlater⟩ := List.forall_mem_append.mp h
    obtain ⟨-, -, hafter⟩ : r.Allowed ∧ r'.Allowed ∧ ∀ r ∈ after, r.Allowed := by
      simpa only [List.forall_mem_cons] using hlater
    have hallowed : ∀ r ∈ before ++ merged :: after, r.Allowed :=
      List.forall_mem_append.mpr
        ⟨hbefore, List.forall_mem_cons.mpr ⟨allowed_merge? hmerged, hafter⟩⟩
    have hsplit : before ++ r :: r' :: after = before ++ ([r, r'] ++ after) := rfl
    have hone : before ++ merged :: after = before ++ ([merged] ++ after) := rfl
    rw [d.refineAll_eq hallowed, hsplit, hone]
    simp only [refined_append, refined_merge? _ hmerged]

/-- Calls in the order of their clauses, a source among them that is replaced. -/
def inOrder : List Refinement :=
  [.select [.named "no"], .select [.named "name"], .source (.table "guests" none),
    .source (.table "members" none), .filter ((Column.named "no").equals (.integer 7)),
    .orderBy [(Column.named "name").descending], .limit 5]

/-- The same calls in another order, with calls that are replaced later. -/
def shuffled : List Refinement :=
  [.source (.table "guests" none), .limit 5, .select [.named "no"],
    .filter ((Column.named "no").equals (.integer 7)), .source (.table "members" none),
    .orderBy [(Column.named "name").descending], .select [.named "name"]]

theorem refineAll_order_shuffled :
    (∀ r ∈ inOrder, r.Allowed) ∧ ∃ q, empty.refineAll inOrder = .ok q ∧
      empty.refineAll shuffled = .ok q ∧ empty.refineAll (lasting shuffled) = .ok q ∧
      q.projections = [.reference none "no", .reference none "name"] ∧
      q.source = some (.table "members" none) ∧ q.limit = some 5 := by
  have hallowed : ∀ r ∈ inOrder, r.Allowed := by decide
  have hallowed' : ∀ r ∈ shuffled, r.Allowed := by decide
  have hsame : ∀ k, shuffled.filter (·.clause = k) = inOrder.filter (·.clause = k) := by
    rintro (_ | _ | _ | _ | _ | _ | _ | _ | _) <;> rfl
  obtain ⟨q, hq, horder, -⟩ := refineAll_order empty inOrder hallowed
  obtain ⟨q', hq', -, hlasting, -⟩ := refineAll_order empty shuffled hallowed'
  have hshuffled : empty.refineAll shuffled = .ok q := horder shuffled hsame
  obtain rfl : q' = q := Except.ok.inj (hq'.symm.trans hshuffled)
  obtain rfl : _ = q' := Except.ok.inj hq
  exact ⟨hallowed, _, hq, hq', hlasting, rfl, rfl, rfl⟩

end Dataset

end RowMap
