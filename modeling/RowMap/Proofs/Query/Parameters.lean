import RowMap.Proofs.Query.Assembled

/-!
# Parameters and placeholders

The parameters of a compiled statement belong to its placeholders, one to one and in order. If the
names of a statement are closed and have no placeholders, and its raw texts are closed, then filling
in printed values for the placeholders gives the statement with its values in the text
(`filled_compile`), whatever the printed form of a value is.

The induction is that of `Assembled`. A fragment is `Aligned` with a text if it is closed, has as
many placeholders as parameters, and becomes the text when it is filled in. Being closed is what
lets two aligned fragments be put together: the second one is then scanned as if it stood alone.
-/

namespace RowMap

open Fragment (text)
open Sql (Closed Plain)

/-- The text is closed, and filling its placeholders with its parameters gives the other text. -/
structure Fragment.Aligned (print : Value → String) (f : Fragment) (s : String) : Prop where
  closed : Closed f.sql
  count : Sql.placeholders f.sql = f.params.length
  filled : Sql.filled (f.params.map print) f.sql = s

namespace Fragment.Aligned

variable {print : Value → String}

theorem of_plain {s : String} (h : Plain s) : (text s).Aligned print s :=
  ⟨h.1, h.2, Sql.filled_nil s⟩

/-- A bound value is aligned with its printed form. -/
theorem bound (value : Value) : (Fragment.bound value).Aligned print (print value) := by
  have hclosed : Closed "?" := by decide
  have hcount : Sql.placeholders "?" = 1 := by decide
  exact ⟨hclosed, hcount, Sql.filled_placeholder _⟩

/-- Aligned fragments, one behind the other, are aligned. -/
theorem append {f g : Fragment} {s t : String} (hf : f.Aligned print s) (hg : g.Aligned print t) :
    (f ++ g).Aligned print (s ++ t) := by
  have hn : (f.params.map print).length = Sql.placeholders f.sql := by
    rw [List.length_map, hf.count]
  refine ⟨hf.closed.append hg.closed, ?_, ?_⟩
  · rw [sql_append, Sql.placeholders_append hf.closed, hf.count, hg.count, params_append,
      List.length_append]
  · rw [sql_append, params_append, List.map_append, Sql.filled_append _ hf.closed hn, hf.filled,
      hg.filled]

end Fragment.Aligned

/-- Whatever is assembled of plain names and closed raw texts is aligned. -/
theorem Assembled.aligned {print : Value → String} {f : Fragment} {s : String}
    (h : Assembled print Plain Closed f s) : f.Aligned print s := by
  induction h with
  | inert h => exact .of_plain h.plain
  | name h => exact .of_plain h
  | bound value => exact .bound value
  | raw h hn => exact ⟨h, hn, rfl⟩
  | append _ _ ihf ihg => exact ihf.append ihg
  | parenthesized _ ih =>
    have hopen : (text "(").Aligned print "(" := .of_plain (by decide)
    have hclose : (text ")").Aligned print ")" := .of_plain (by decide)
    exact (hopen.append ih).append hclose

/-- Filling in the parameters of a compiled statement gives the statement with its values in the
text, and there are as many parameters as placeholders. -/
theorem filled_compile (c : Command) (h : ∀ x ∈ c.callerTexts, x.Meets Plain Closed)
    (print : Value → String) {s : Statement} (hs : c.compile .neutral = .ok s) :
    Sql.filled (s.params.map print) s.sql = c.inlined print .neutral ∧
      Sql.placeholders s.sql = s.params.length := by
  obtain ⟨f, hf, rfl⟩ := c.assembled h hs
  exact ⟨hf.aligned.filled, hf.aligned.count⟩

/-- A raw text with a quoted question mark inside of a nested source, two conditions, and a list
that holds null. -/
def namesakes : Command :=
  let notes := (Dataset.empty.fromTable "notes").filter (.raw "text <> '?' OR no = ?" [.text "7"])
  .selection ((((Dataset.empty.select [.named "name"]).fromSource (.nested notes "n")).filter
    ((Column.named "name").equals (.text "Ann"))).filter
    ((Column.named "town").isIn [.text "Rome", .null]))

theorem filled_compile_namesakes :
    (∀ x ∈ namesakes.callerTexts, x.Meets Plain Closed) ∧
      ∃ s, namesakes.compile .neutral = .ok s ∧
        s.sql = "SELECT name FROM (SELECT * FROM notes WHERE text <> '?' OR no = ?) AS n " ++
          "WHERE (name = ? AND town IN (?, NULL))" ∧
        Sql.filled (s.params.map Value.display) s.sql =
          "SELECT name FROM (SELECT * FROM notes WHERE text <> '?' OR no = 7) AS n " ++
          "WHERE (name = Ann AND town IN (Rome, NULL))" := by
  have hmeets : ∀ x ∈ namesakes.callerTexts, x.Meets Plain Closed := by decide
  obtain ⟨s, hs⟩ : ∃ s, namesakes.compile .neutral = .ok s := ⟨_, rfl⟩
  have hfilled := (filled_compile namesakes hmeets Value.display hs).1
  refine ⟨hmeets, s, hs, ?_, ?_⟩
  · obtain rfl := Except.ok.inj hs
    rfl
  · rw [hfilled]
    decide

end RowMap
