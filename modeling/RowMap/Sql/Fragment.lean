import RowMap.Sql.Dialect
import RowMap.Value.Basic

/-!
# Fragments of SQL

A fragment is a text together with the values of its placeholders, in the order of the placeholders.
Fragments are put one after the other; text and parameters grow together. A statement is a
fragment that has been finished for a dialect.
-/

namespace RowMap

/-- A piece of a statement and the parameters of its placeholders, in order. -/
structure Fragment where
  sql : String
  params : List Value

namespace Fragment

/-- Neither text nor parameters. -/
def empty : Fragment :=
  ⟨"", []⟩

/-- Text without parameters. -/
def text (sql : String) : Fragment :=
  ⟨sql, []⟩

/-- A placeholder with its value. -/
def bound (value : Value) : Fragment :=
  ⟨"?", [value]⟩

/-- A literal value; null is written out and takes no parameter. -/
def literal : Value → Fragment
  | .null => text "NULL"
  | value => bound value

instance : Append Fragment where
  append a b := ⟨a.sql ++ b.sql, a.params ++ b.params⟩

/-- The fragments with a separator between each two of them. -/
def joined (separator : String) : List Fragment → Fragment
  | [] => empty
  | [only] => only
  | first :: rest => first ++ text separator ++ joined separator rest

/-- A fragment in parentheses. -/
def parenthesized (f : Fragment) : Fragment :=
  text "(" ++ f ++ text ")"

/-! ## Laws of concatenation -/

@[simp] theorem sql_append (a b : Fragment) : (a ++ b).sql = a.sql ++ b.sql := rfl

@[simp] theorem params_append (a b : Fragment) : (a ++ b).params = a.params ++ b.params := rfl

@[simp] theorem sql_text (s : String) : (text s).sql = s := rfl

@[simp] theorem params_text (s : String) : (text s).params = [] := rfl

theorem eq_mk {f : Fragment} {sql : String} {params : List Value} (hsql : f.sql = sql)
    (hparams : f.params = params) : f = ⟨sql, params⟩ := by
  rw [← hsql, ← hparams]

/-- It does not matter which fragments are joined first. -/
theorem append_assoc (a b c : Fragment) : a ++ b ++ c = a ++ (b ++ c) := by
  show mk (a.sql ++ b.sql ++ c.sql) (a.params ++ b.params ++ c.params) = mk _ _
  rw [String.append_assoc, List.append_assoc]
  rfl

@[simp] theorem append_empty (f : Fragment) : f ++ empty = f := by
  show mk (f.sql ++ "") (f.params ++ []) = mk f.sql f.params
  rw [String.append_empty, List.append_nil]

@[simp] theorem empty_append (f : Fragment) : empty ++ f = f := by
  show mk ("" ++ f.sql) ([] ++ f.params) = mk f.sql f.params
  rw [String.empty_append, List.nil_append]

theorem text_append (s t : String) : text (s ++ t) = text s ++ text t := rfl

/-- A separator stands behind every fragment but the last. -/
theorem joined_cons (separator : String) (f : Fragment) {rest : List Fragment} (h : rest ≠ []) :
    joined separator (f :: rest) = f ++ text separator ++ joined separator rest := by
  cases rest with
  | nil => exact absurd rfl h
  | cons => rfl

/-- The text of joined fragments is their joined text. -/
theorem sql_joined (separator : String) : (fs : List Fragment) →
    (joined separator fs).sql = separator.intercalate (fs.map Fragment.sql)
  | [] => rfl
  | [_] => String.intercalate_singleton.symm
  | f :: g :: rest => by
    have hrest := sql_joined separator (g :: rest)
    rw [joined_cons separator f (List.cons_ne_nil g rest), List.map_cons, List.map_cons,
      String.intercalate_cons_cons, ← List.map_cons, ← hrest]
    rfl

/-- The parameters of joined fragments stand in the order of the fragments. -/
theorem params_joined (separator : String) : (fs : List Fragment) →
    (joined separator fs).params = (fs.map Fragment.params).flatten
  | [] => rfl
  | [f] => by simp [joined]
  | f :: g :: rest => by simp [joined, params_joined separator (g :: rest)]

/-- Of two lists of fragments, neither of them empty, the ends meet with a separator. -/
theorem joined_append (separator : String) {fs gs : List Fragment} (hf : fs ≠ []) (hg : gs ≠ []) :
    joined separator (fs ++ gs) = joined separator fs ++ text separator ++ joined separator gs := by
  induction fs with
  | nil => exact absurd rfl hf
  | cons f rest ih =>
    by_cases hrest : rest = []
    · subst hrest
      exact joined_cons separator f hg
    · have hlater : rest ++ gs ≠ [] := by simp [hrest]
      rw [List.cons_append, joined_cons separator f hlater, ih hrest, joined_cons separator f hrest]
      simp only [append_assoc]

end Fragment

/-- A complete statement for a store. -/
structure Statement where
  sql : String
  params : List Value

/-- The statement that a fragment amounts to in a dialect. -/
def Fragment.finish (f : Fragment) (dialect : Dialect) : Statement :=
  ⟨dialect.finalize f.sql, f.params⟩

end RowMap
