import RowMap.Query.Basic

/-!
# Induction over queries

Conditions, operands, sources and datasets are defined in terms of each other. `Hereditary` says of
four properties, one for each of them, that a node has its property if its parts have theirs;
all nodes then do.
-/

namespace RowMap

/-- Properties of conditions, right-hand sides, sources and datasets that go from the parts to the
whole. -/
structure Hereditary (OfExpression : Expression → Prop) (OfOperand : Operand → Prop)
    (OfSource : Source → Prop) (OfDataset : Dataset → Prop) : Prop where
  comparison : ∀ op left right, (∀ operand, right = some operand → OfOperand operand) →
    OfExpression (.comparison op left right)
  group : ∀ connective operands, (∀ e ∈ operands, OfExpression e) →
    OfExpression (.group connective operands)
  negation : ∀ operands, (∀ e ∈ operands, OfExpression e) → OfExpression (.negation operands)
  raw : ∀ text params, OfExpression (.raw text params)
  single : ∀ column, OfOperand (.single column)
  list : ∀ columns, OfOperand (.list columns)
  subquery : ∀ dataset, OfDataset dataset → OfOperand (.subquery dataset)
  table : ∀ name label, OfSource (.table name label)
  nested : ∀ dataset label, OfDataset dataset → OfSource (.nested dataset label)
  dataset : ∀ d : Dataset, (∀ source, d.source = some source → OfSource source) →
    (∀ j ∈ d.joins, OfSource j.source ∧ OfExpression j.condition) →
    (∀ e ∈ d.filters, OfExpression e) →
    (∀ e, d.groupFilter = some e → OfExpression e) → OfDataset d

namespace Hereditary

variable {OfExpression : Expression → Prop} {OfOperand : Operand → Prop}
  {OfSource : Source → Prop} {OfDataset : Dataset → Prop}

mutual

/-- A hereditary property holds of every condition. -/
theorem of_expression (h : Hereditary OfExpression OfOperand OfSource OfDataset) :
    (e : Expression) → OfExpression e
  | .comparison op left none => h.comparison op left none (by simp)
  | .comparison op left (some operand) =>
    h.comparison op left (some operand) fun _ ho => Option.some.inj ho ▸ h.of_operand operand
  | .group connective operands => h.group connective operands (h.of_expressions operands)
  | .negation operands => h.negation operands (h.of_expressions operands)
  | .raw text params => h.raw text params

/-- A hereditary property holds of every operand. -/
theorem of_expressions (h : Hereditary OfExpression OfOperand OfSource OfDataset) :
    (es : List Expression) → ∀ e ∈ es, OfExpression e
  | [] => by simp
  | e :: rest => List.forall_mem_cons.mpr ⟨h.of_expression e, h.of_expressions rest⟩

/-- A hereditary property holds of every right-hand side. -/
theorem of_operand (h : Hereditary OfExpression OfOperand OfSource OfDataset) :
    (o : Operand) → OfOperand o
  | .single column => h.single column
  | .list columns => h.list columns
  | .subquery dataset => h.subquery dataset (h.of_dataset dataset)

/-- A hereditary property holds of every source. -/
theorem of_source (h : Hereditary OfExpression OfOperand OfSource OfDataset) :
    (s : Source) → OfSource s
  | .table name label => h.table name label
  | .nested dataset label => h.nested dataset label (h.of_dataset dataset)

/-- A hereditary property holds of the parts of every join. -/
theorem of_joins (h : Hereditary OfExpression OfOperand OfSource OfDataset) :
    (js : List Join) → ∀ j ∈ js, OfSource j.source ∧ OfExpression j.condition
  | [] => by simp
  | ⟨_, source, condition⟩ :: rest =>
    List.forall_mem_cons.mpr ⟨⟨h.of_source source, h.of_expression condition⟩, h.of_joins rest⟩

/-- A hereditary property holds of every dataset. -/
theorem of_dataset (h : Hereditary OfExpression OfOperand OfSource OfDataset) :
    (d : Dataset) → OfDataset d
  | ⟨projections, source, joins, filters, groupKeys, groupFilter, orderKeys, limit, offset⟩ => by
    refine h.dataset _ (fun s hs => ?_) (h.of_joins joins) (h.of_expressions filters)
      (fun e he => ?_)
    · match source, hs with
      | some source, hs => exact Option.some.inj hs ▸ h.of_source source
    · match groupFilter, he with
      | some condition, he => exact Option.some.inj he ▸ h.of_expression condition

end

end Hereditary

/-- Conditions alone, whatever the datasets in them are. -/
theorem Expression.of_parts {P : Expression → Prop}
    (comparison : ∀ op left right, P (.comparison op left right))
    (group : ∀ connective operands, (∀ e ∈ operands, P e) → P (.group connective operands))
    (negation : ∀ operands, (∀ e ∈ operands, P e) → P (.negation operands))
    (raw : ∀ text params, P (.raw text params)) (e : Expression) : P e := by
  have h : Hereditary P (fun _ => True) (fun _ => True) (fun _ => True) :=
    { comparison := fun op left right _ => comparison op left right
      group := group
      negation := negation
      raw := raw
      single := by simp
      list := by simp
      subquery := by simp
      table := by simp
      nested := by simp
      dataset := by simp }
  exact h.of_expression e

end RowMap
