import RowMap.Sql.Fragment

/-!
# Filling in placeholders

A text is closed if a walk that starts outside of quotations ends outside of them. What stands
before a closed text and what stands behind it do not influence each other: placeholders of two
texts add up (`placeholders_append`), and filling in texts for the placeholders of both is filling
in those of each (`filled_append`).

A text without quotes and question marks is plain (`Unmarked.plain`), and so is what plain texts are
joined to. Bare texts hold no quote and no parenthesis, inert ones no question mark either. The
keywords and the punctuation that rendering writes are inert.
-/

namespace RowMap.Sql

/-- Every quotation of the text ends in it. -/
def Closed (text : String) : Prop :=
  stateAfter none text.toList = none

/-- The text is closed and has no placeholder. -/
def Plain (text : String) : Prop :=
  Closed text ∧ placeholders text = 0

instance (text : String) : Decidable (Closed text) :=
  inferInstanceAs (Decidable (_ = _))

instance (text : String) : Decidable (Plain text) :=
  inferInstanceAs (Decidable (_ ∧ _))

theorem Closed.append {a b : String} (ha : Closed a) (hb : Closed b) : Closed (a ++ b) := by
  unfold Closed at *
  rw [String.toList_append, stateAfter_append, ha, hb]

/-- Behind a closed text the placeholders count on their own. -/
theorem placeholders_append {a b : String} (ha : Closed a) :
    placeholders (a ++ b) = placeholders a + placeholders b := by
  unfold placeholders
  rw [String.toList_append, mark_append, ha, List.countP_append]

theorem Plain.append {a b : String} (ha : Plain a) (hb : Plain b) : Plain (a ++ b) :=
  ⟨ha.1.append hb.1, by rw [placeholders_append ha.1, ha.2, hb.2]⟩

/-- Plain texts with a plain separator between them are plain. -/
theorem Plain.intercalate {separator : String} (hs : Plain separator) :
    (texts : List String) → (∀ a ∈ texts, Plain a) → Plain (separator.intercalate texts)
  | [], _ => ⟨rfl, rfl⟩
  | [a], h => by
    rw [String.intercalate_singleton]
    exact h a List.mem_cons_self
  | a :: b :: rest, h => by
    obtain ⟨ha, hrest⟩ := List.forall_mem_cons.mp h
    rw [String.intercalate_cons_cons]
    exact (ha.append hs).append (Plain.intercalate hs (b :: rest) hrest)

/-- The walk over characters that are no quotes stays outside of quotations. -/
theorem mark_unquoted {cs : List Char} (h : ∀ c ∈ cs, isQuote c = false) :
    mark none cs = cs.map (·, false) ∧ stateAfter none cs = none := by
  induction cs with
  | nil => exact ⟨rfl, rfl⟩
  | cons c cs ih =>
    obtain ⟨hc, hcs⟩ := List.forall_mem_cons.mp h
    have hnext : QuoteState.next none c = none := by simp [QuoteState.next, hc]
    obtain ⟨hm, hs⟩ := ih hcs
    refine ⟨?_, ?_⟩
    · simp [mark, hnext, hm, QuoteState.quotes, hc]
    · rw [stateAfter, List.foldl_cons, hnext]
      exact hs

/-- Without a question mark there is no placeholder. -/
theorem countP_unquoted {cs : List Char} (h : ∀ c ∈ cs, c ≠ '?') :
    (cs.map (·, false)).countP isPlaceholder = 0 := by
  rw [List.countP_map, List.countP_eq_zero]
  intro c hc
  simpa [isPlaceholder] using h c hc

/-- No quotes and no question marks. -/
def Unmarked (text : String) : Prop :=
  ∀ c ∈ text.toList, isQuote c = false ∧ c ≠ '?'

instance (text : String) : Decidable (Unmarked text) :=
  List.decidableBAll (fun c => isQuote c = false ∧ c ≠ '?') text.toList

theorem Unmarked.plain {text : String} (h : Unmarked text) : Plain text := by
  obtain ⟨hmark, hstate⟩ := mark_unquoted fun c hc => (h c hc).1
  exact ⟨hstate, by rw [placeholders, hmark, countP_unquoted fun c hc => (h c hc).2]⟩

/-- Not a quote and not a parenthesis. -/
def isBare (c : Char) : Bool :=
  !isQuote c && c ≠ '(' && c ≠ ')'

/-- Not a quote, a parenthesis or a question mark. -/
def isInert (c : Char) : Bool :=
  isBare c && c ≠ '?'

/-- The text has no quotes and no parentheses. -/
def Bare (text : String) : Prop :=
  ∀ c ∈ text.toList, isBare c = true

/-- The text has no quotes, parentheses or question marks. -/
def Inert (text : String) : Prop :=
  ∀ c ∈ text.toList, isInert c = true

instance (text : String) : Decidable (Bare text) :=
  decidable_of_iff (text.toList.all isBare = true) List.all_eq_true

instance (text : String) : Decidable (Inert text) :=
  decidable_of_iff (text.toList.all isInert = true) List.all_eq_true

theorem isQuote_of_isBare {c : Char} (h : isBare c = true) : isQuote c = false := by
  simp only [isBare, Bool.and_eq_true] at h
  simpa using h.1.1

/-- A bare text opens no literal, so it leaves none open. -/
theorem Bare.closed {text : String} (h : Bare text) : Closed text :=
  (mark_unquoted fun c hc => isQuote_of_isBare (h c hc)).2

/-- An inert text is bare. -/
theorem Inert.bare {text : String} (h : Inert text) : Bare text := by
  intro c hc
  have := h c hc
  rw [isInert, Bool.and_eq_true] at this
  exact this.1

/-- Inert texts, one behind the other, are inert. -/
theorem Inert.append {a b : String} (ha : Inert a) (hb : Inert b) : Inert (a ++ b) := by
  unfold Inert at *
  rw [String.toList_append, List.forall_mem_append]
  exact ⟨ha, hb⟩

/-- An inert text is plain. -/
theorem Inert.plain {text : String} (h : Inert text) : Plain text := by
  refine Unmarked.plain fun c hc => ⟨isQuote_of_isBare (h.bare c hc), ?_⟩
  have := h c hc
  rw [isInert, Bool.and_eq_true] at this
  simpa using this.2

/-- Writes marked characters with texts in the place of the placeholders. Placeholders that no text
is left for stay as they are. -/
def fill : (args : List String) → List (Char × Bool) → List Char
  | _, [] => []
  | [], m :: rest => m.1 :: fill [] rest
  | arg :: args, m :: rest =>
    if isPlaceholder m then arg.toList ++ fill args rest else m.1 :: fill (arg :: args) rest

/-- The text with the `k`-th of the given texts in the place of its `k`-th placeholder. -/
def filled (args : List String) (text : String) : String :=
  String.ofList (fill args (mark none text.toList))

/-- Without arguments the text stays as it is. -/
theorem fill_nil (ms : List (Char × Bool)) : fill [] ms = ms.map Prod.fst := by
  induction ms with
  | nil => rfl
  | cons m ms ih => rw [fill, ih, List.map_cons]

/-- The first text takes as many arguments as it has placeholders, the second one the others. -/
theorem fill_append (args more : List String) (ms ns : List (Char × Bool))
    (h : args.length = ms.countP isPlaceholder) :
    fill (args ++ more) (ms ++ ns) = fill args ms ++ fill more ns := by
  induction ms generalizing args with
  | nil => simp_all [fill]
  | cons m ms ih =>
    cases hm : isPlaceholder m with
    | true =>
      cases args with
      | nil => simp [hm] at h
      | cons arg args =>
        have h' : args.length = ms.countP isPlaceholder := by simpa [hm] using h
        simp [fill, hm, ih args h']
    | false =>
      have h' : args.length = ms.countP isPlaceholder := by simpa [hm] using h
      have := ih args h'
      cases args with
      | nil =>
        cases more with
        | nil => simpa [fill] using this
        | cons arg more => simpa [fill, hm] using this
      | cons arg args => simpa [fill, hm] using this

/-- The first text takes as many arguments as it has placeholders, the second one the others. -/
theorem filled_append {a b : String} {args : List String} (more : List String) (ha : Closed a)
    (hn : args.length = placeholders a) :
    filled (args ++ more) (a ++ b) = filled args a ++ filled more b := by
  unfold filled
  rw [String.toList_append, mark_append, ha, fill_append _ _ _ _ hn, String.ofList_append]

theorem filled_placeholder (arg : String) : filled [arg] "?" = arg := by
  have hm : mark none "?".toList = [('?', false)] := by decide
  rw [filled, hm, fill, fill, if_pos (by decide), List.append_nil, String.ofList_toList]

@[simp] theorem filled_nil (text : String) : filled [] text = text := by
  rw [filled, fill_nil, map_fst_mark, String.ofList_toList]

/-- Question marks for placeholders change nothing. -/
theorem fill_questionMarks {args : List String} (h : ∀ a ∈ args, a = "?")
    (ms : List (Char × Bool)) : fill args ms = ms.map Prod.fst := by
  induction ms generalizing args with
  | nil => cases args <;> rfl
  | cons m ms ih =>
    cases args with
    | nil => exact fill_nil _
    | cons arg args =>
      obtain ⟨harg, hargs⟩ := List.forall_mem_cons.mp h
      rw [fill]
      split
      case isTrue hm =>
        have hc : m.1 = '?' := by simpa using (Bool.and_eq_true_iff.mp hm).1
        rw [harg, ih hargs, List.map_cons, hc]
        rfl
      case isFalse => rw [ih h, List.map_cons]

/-- Filling in question marks changes nothing. -/
theorem filled_questionMarks {args : List String} (h : ∀ a ∈ args, a = "?") (text : String) :
    filled args text = text := by
  rw [filled, fill_questionMarks h, map_fst_mark, String.ofList_toList]

end RowMap.Sql
