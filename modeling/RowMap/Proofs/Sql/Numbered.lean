import RowMap.Proofs.Decimal.Digits
import RowMap.Proofs.Sql.Finished

/-!
# Numbered placeholders

`renumbered` says place by place what stands in a text whose placeholders are numbered: a dollar
sign and the number in the place of a placeholder, every other character in its own place. The
number is one more than the placeholders that stand before, so it is `k` for the `k`-th of them.

Finishing a text for PostgreSQL gives just this, and the walk over the finished text finds the
characters that were kept quoted or not as they were before (`mark_numberedFrom`). What is put in
opens no quotation and asks for no parameter, so a finished text is not changed by finishing it
again (`finalize_renumbers`).
-/

namespace RowMap.Sql

/-- What stands in the place of the `i`-th of some marked characters, `k` placeholders having gone
before all of them. -/
def renumberedAt (k : Nat) (ms : List (Char × Bool)) (i : Nat) (m : Char × Bool) :
    List (Char × Bool) :=
  if isPlaceholder m then
    ('$' :: Decimal.digits (k + (ms.take i).countP isPlaceholder + 1)).map (·, false)
  else [m]

/-- Marked characters with numbers in the places of their placeholders, `k` placeholders having gone
before. -/
def renumbered (k : Nat) (ms : List (Char × Bool)) : List (Char × Bool) :=
  (ms.mapIdx (renumberedAt k ms)).flatten

/-- The text with its placeholders numbered behind `k` others. -/
def numberedAfter (k : Nat) (text : String) : String :=
  String.ofList ((renumbered k (mark none text.toList)).map Prod.fst)

section Places

variable {k : Nat} {m : Char × Bool} (ms : List (Char × Bool))

/-- What stands later in the text is numbered behind the placeholder in front, if it is one. -/
theorem renumberedAt_succ : (fun i => renumberedAt k (m :: ms) (i + 1)) =
    renumberedAt (k + if isPlaceholder m then 1 else 0) ms := by
  funext i n
  have hcount : k + ((m :: ms).take (i + 1)).countP isPlaceholder =
      k + (if isPlaceholder m then 1 else 0) + (ms.take i).countP isPlaceholder := by
    rw [List.take_succ_cons, List.countP_cons]
    omega
  rw [renumberedAt, renumberedAt, hcount]

/-- The first place is renumbered, then the others. -/
theorem renumbered_cons : renumbered k (m :: ms) = renumberedAt k (m :: ms) 0 m ++
    renumbered (k + if isPlaceholder m then 1 else 0) ms := by
  rw [renumbered, List.mapIdx_cons, renumberedAt_succ, List.flatten_cons, renumbered]

/-- A placeholder becomes its number. -/
theorem renumbered_placeholder (h : isPlaceholder m = true) : renumbered k (m :: ms) =
    ('$' :: Decimal.digits (k + 1)).map (·, false) ++ renumbered (k + 1) ms := by
  simp [renumbered_cons, renumberedAt, h]

theorem renumbered_other (h : isPlaceholder m = false) :
    renumbered k (m :: ms) = m :: renumbered k ms := by
  simp [renumbered_cons, renumberedAt, h]

end Places

/-- The dollar sign and the digits are neither quotes nor question marks. -/
theorem unmarked_slot (n : Nat) : ∀ c ∈ '$' :: Decimal.digits n, isQuote c = false ∧ c ≠ '?' := by
  refine List.forall_mem_cons.mpr ⟨by decide, fun c hc => ?_⟩
  have hdigit := Decimal.isDigit_of_mem_digits hc
  have hsingle : c ≠ '\'' := Decimal.ne_of_isDigit hdigit rfl
  have hdouble : c ≠ '"' := Decimal.ne_of_isDigit hdigit rfl
  exact ⟨by simp [isQuote, hsingle, hdouble], Decimal.ne_of_isDigit hdigit rfl⟩

/-- A placeholder is a question mark outside of quotations. -/
theorem eq_of_isPlaceholder {state : QuoteState} {c : Char}
    (h : isPlaceholder (c, state.quotes c) = true) : c = '?' ∧ state = none := by
  obtain ⟨hc, hstate⟩ := Bool.and_eq_true_iff.mp h
  cases state with
  | none => exact ⟨of_decide_eq_true hc, rfl⟩
  | some quote => cases hstate

/-- Numbering leaves every mark as it was: behind each place the walk is in the same state in both
texts. -/
theorem mark_numberedFrom (k : Nat) (state : QuoteState) (cs : List Char) :
    mark state (numberedFrom k (mark state cs)) = renumbered k (mark state cs) := by
  induction cs generalizing k state with
  | nil => rfl
  | cons c cs ih =>
    cases hm : isPlaceholder (c, state.quotes c) with
    | true =>
      obtain ⟨rfl, rfl⟩ := eq_of_isPlaceholder hm
      have hnext : QuoteState.next none '?' = none := rfl
      obtain ⟨hslot, hstate⟩ := mark_unquoted fun c hc => (unmarked_slot (k + 1) c hc).1
      rw [mark, renumbered_placeholder _ hm, numberedFrom, if_pos hm, mark_append, hslot, hstate,
        hnext, ih]
    | false =>
      rw [mark, renumbered_other _ hm, numberedFrom, if_neg (by simp [hm]), mark, ih]

/-- The walk writes what is renumbered place by place. -/
theorem numberedFrom_eq (k : Nat) (state : QuoteState) (cs : List Char) :
    numberedFrom k (mark state cs) = (renumbered k (mark state cs)).map Prod.fst := by
  rw [← mark_numberedFrom, map_fst_mark]

/-- No parameter is asked for by what stands in a numbered text. -/
theorem countP_renumbered (k : Nat) (ms : List (Char × Bool)) :
    (renumbered k ms).countP isPlaceholder = 0 := by
  induction ms generalizing k with
  | nil => rfl
  | cons m ms ih =>
    cases hm : isPlaceholder m with
    | true =>
      have hslot := countP_unquoted fun c hc => (unmarked_slot (k + 1) c hc).2
      rw [renumbered_placeholder _ hm, List.countP_append, hslot, ih]
    | false => rw [renumbered_other _ hm, List.countP_cons_of_neg (by simp [hm]), ih]

/-- A text numbered behind others is what stands of it in a finished statement. -/
theorem finished_postgres (k : Nat) (text : String) :
    finished .postgres k text = numberedAfter k text := by
  rw [numberedAfter, ← numberedFrom_eq, numberedFrom_eq_fill]
  rfl

theorem finalize_postgres (text : String) :
    Dialect.postgres.finalize text = numberedAfter 0 text := by
  rw [finalize_eq_finished, finished_postgres]

/-- The walk over a numbered text marks what it marked before. -/
theorem mark_numberedAfter (k : Nat) (text : String) :
    mark none (numberedAfter k text).toList = renumbered k (mark none text.toList) := by
  rw [numberedAfter, String.toList_ofList, ← numberedFrom_eq, mark_numberedFrom]

theorem placeholders_numberedAfter (k : Nat) (text : String) :
    placeholders (numberedAfter k text) = 0 := by
  rw [placeholders, mark_numberedAfter, countP_renumbered]

/-- A text that asks for no parameter is finished as it is. -/
theorem finalize_of_placeholders_eq_zero {text : String} (h : placeholders text = 0)
    (dialect : Dialect) : dialect.finalize text = text := by
  rw [finalize_eq_finished, finished, h]
  exact filled_nil text

/-- Finishing a text for PostgreSQL numbers its placeholders, whose number is the count of those up
to there, and changes nothing else: all other characters stand in their order, with the marks that
they had. What is finished has no placeholder left and stays as it is. If the text is cut where no
quotation is open, its second part is numbered behind the first. -/
theorem finalize_renumbers (text : String) :
    Dialect.postgres.finalize text = numberedAfter 0 text ∧
      mark none (Dialect.postgres.finalize text).toList = renumbered 0 (mark none text.toList) ∧
      placeholders (Dialect.postgres.finalize text) = 0 ∧
      Dialect.postgres.finalize (Dialect.postgres.finalize text) =
        Dialect.postgres.finalize text ∧
      ∀ a b, text = a ++ b → Closed a →
        Dialect.postgres.finalize text =
          Dialect.postgres.finalize a ++ numberedAfter (placeholders a) b ∧
        placeholders text = placeholders a + placeholders b := by
  have hcount : placeholders (Dialect.postgres.finalize text) = 0 := by
    rw [finalize_postgres, placeholders_numberedAfter]
  refine ⟨finalize_postgres text, ?_, hcount, finalize_of_placeholders_eq_zero hcount _, ?_⟩
  · rw [finalize_postgres, mark_numberedAfter]
  · rintro a b rfl ha
    refine ⟨?_, placeholders_append ha⟩
    rw [finalize_eq_finished, finalize_eq_finished, finished_append ha, Nat.zero_add,
      finished_postgres _ b]

/-- Cut between a quotation that has ended and one that begins. -/
theorem finalize_renumbers_cut :
    let a := "note = 'why?' AND age > ?"
    let b := " AND \"name?\" = ?"
    Closed a ∧
      Dialect.postgres.finalize (a ++ b) = "note = 'why?' AND age > $1 AND \"name?\" = $2" ∧
      placeholders (a ++ b) = 2 := by
  intro a b
  have hclosed : Closed a := by decide
  obtain ⟨-, -, -, -, hcut⟩ := finalize_renumbers (a ++ b)
  obtain ⟨htext, hcount⟩ := hcut a b rfl hclosed
  exact ⟨hclosed, htext.trans (by decide +kernel), hcount.trans (by decide)⟩

end RowMap.Sql
