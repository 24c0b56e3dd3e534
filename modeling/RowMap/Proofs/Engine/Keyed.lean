import Mathlib.Data.List.TakeDrop
import Mathlib.Data.List.TakeWhile
import RowMap.Engine.Basic
import RowMap.Proofs.Query.Rendered
import RowMap.Proofs.Record.Fields

/-!
# Statements about one row

The condition that a row has a given key is a comparison with one parameter, provided the key is the
name of a column and the parameter is not null (`render_hasKey`). So the update of a row by its key
has the assigned values and then the key as parameters (`compile_keyedUpdate`), and the row is
looked up with the key as the only one (`compile_keyedRow`).
-/

namespace RowMap

open Fragment (text joined bound)

/-- A text without a point is the name of a column. -/
theorem Column.named_of_not_mem {name : String} (h : '.' ∉ name.toList) :
    Column.named name = .reference none name := by
  have hall : ∀ c ∈ name.toList, decide (c ≠ '.') = true := by
    intro c hc
    simp only [decide_eq_true_eq]
    rintro rfl
    exact h hc
  rw [Column.named, List.span_eq_takeWhile_dropWhile, List.takeWhile_eq_self_iff.mpr hall,
    List.dropWhile_eq_nil_iff.mpr hall]
  exact congrArg _ String.ofList_toList

theorem equals_placeholder (front : String) : front ++ " = " ++ "?" = front ++ " = ?" :=
  String.append_assoc ..

theorem Fragment.literal_of_isNull {value : Value} (h : value.isNull = false) :
    Fragment.literal value = bound value := by
  cases value with
  | null => cases h
  | _ => rfl

/-- Parts with one parameter each, joined. -/
theorem Fragment.joined_parameters {α : Type} (separator : String) (as : List α) (sql : α → String)
    (value : α → Value) :
    joined separator (as.map fun a => ⟨sql a, [value a]⟩) =
      ⟨separator.intercalate (as.map sql), as.map value⟩ := by
  refine Fragment.eq_mk ?_ ?_
  · rw [Fragment.sql_joined, List.map_map]
    rfl
  · rw [Fragment.params_joined, List.map_map, ← List.flatMap_def]
    exact List.map_eq_flatMap.symm

namespace Engine

variable (e : Engine) {t : RecordType} {dialect : Dialect} {id : Value}

/-- The condition on the key is one comparison. -/
theorem render_hasKey (hkey : t.key ≠ "") (hpoint : '.' ∉ t.key.toList) (hid : id.isNull = false) :
    (hasKey t id).render dialect = .ok ⟨t.key ++ " = ?", [id]⟩ := by
  have htest : nullTest? .eq (some (.single (.literal id))) = none := by
    simp [nullTest?, Column.isNullLiteral, hid]
  rw [hasKey, Column.named_of_not_mem hpoint]
  refine render_comparison_eq_ok.mpr ⟨_, text t.key, rfl, ?_, .inr (.inr ⟨htest, rfl, ?_⟩)⟩
  · exact render_reference_eq_ok.mpr ⟨hkey, rfl⟩
  · refine ⟨_, bound id, rfl, ?_, ?_⟩
    · exact render_single_eq_ok.mpr
        ⟨rfl, render_literal_eq_ok.mpr (Fragment.literal_of_isNull hid)⟩
    · exact congrArg (Fragment.mk · [id]) (equals_placeholder t.key)

/-- The set attributes of a record other than its key. -/
def others (r : Record t) : List (String × Value) :=
  r.assigned.filter (·.1 ≠ t.key)

/-- An update assigns all set attributes but the key. -/
theorem assignments_eq (r : Record t) : assignments r = others r := by
  rw [others, ← r.map_filter_fields, List.filter_map, List.filter_filter]
  rfl

theorem mem_assigned_of_mem_others {r : Record t} {a : String × Value} (h : a ∈ others r) :
    a ∈ r.assigned :=
  (List.mem_filter.mp h).1

/-- Sets the assigned columns of the row with the given key. -/
def keyedUpdate (r : Record t) (id : Value) : Statement :=
  ⟨e.dialect.finalize ("UPDATE " ++ t.table ++ " SET "
      ++ ", ".intercalate ((assignments r).map fun a => a.1 ++ " = ?")
      ++ " WHERE " ++ t.key ++ " = ?"),
    (assignments r).map Prod.snd ++ [id]⟩

/-- Every assigned value is a parameter, for none of them is null. -/
theorem joined_assignments (r : Record t) :
    joined ", " ((assignments r).map Update.assignment) =
      ⟨", ".intercalate ((assignments r).map fun a => a.1 ++ " = ?"),
        (assignments r).map Prod.snd⟩ := by
  have hparts : (assignments r).map Update.assignment =
      (assignments r).map fun a => ⟨a.1 ++ " = ?", [a.2]⟩ := by
    refine List.map_congr_left fun a ha => ?_
    rw [assignments_eq] at ha
    have hset := Record.isNull_of_mem_assigned (mem_assigned_of_mem_others ha)
    rw [Update.assignment, Fragment.literal_of_isNull hset]
    exact congrArg (Fragment.mk · [a.2]) (equals_placeholder a.1)
  rw [hparts]
  exact Fragment.joined_parameters ..

/-- The update of a row is compiled with the key last. -/
theorem compile_keyedUpdate {r : Record t} (hr : assignments r ≠ []) (hkey : t.key ≠ "")
    (hpoint : '.' ∉ t.key.toList) (hid : id.isNull = false) :
    Update.compile ⟨t.table, assignments r, some (hasKey t id)⟩ e.dialect =
      .ok (e.keyedUpdate r id) := by
  have hset : (assignments r).isEmpty = false := by simpa using hr
  simp only [Update.compile, Update.render, hset, whereClause, render_hasKey hkey hpoint hid,
    joined_assignments, Except.map, bind, Except.bind, pure, Except.pure]
  refine congrArg Except.ok ?_
  simp [Fragment.finish, keyedUpdate, clause, String.append_assoc]

/-- The row with the given key, as the engine looks it up. -/
def rowOfKey (t : RecordType) (id : Value) : Dataset :=
  ((Dataset.empty.fromTable t.table).filter (hasKey t id)).first

/-- Reads the row with the given key. -/
def keyedRow (t : RecordType) (id : Value) : Statement :=
  ⟨e.dialect.finalize ("SELECT * FROM " ++ t.table ++ " WHERE " ++ t.key ++ " = ? LIMIT 1"), [id]⟩

end Engine

end RowMap
