import RowMap.Sql.Placeholder

/-!
# Literals and quoted identifiers

SQL reads a text as lexemes: string literals and quoted identifiers, and the characters between
them. A literal goes from a quote, single or double, to the next quote of the same kind that is not
doubled; a doubled one stands for a quote in the literal, and the other kind of quote means nothing
in it. A literal that no quote ends goes to the end of the text. `Lexed` is this grammar. It reads
every text in one way, which the lexer `lexemes` finds by looking one character ahead at each quote
(`lexed_iff`).

The walk that marks characters as quoted does not look ahead. It takes a doubled quote for the end
of one quotation and the beginning of another, which comes to the same: it marks the characters of
literals and no others (`mark_eq_lexemes`).
-/

namespace RowMap.Sql

/-- A literal, or a character outside of literals. A literal is given by its quote, the characters
that it stands for, and whether a quote ends it. -/
inductive Lexeme where
  | plain (c : Char)
  | literal (quote : Char) (body : List Char) (ended : Bool)
  deriving DecidableEq

/-- The characters of a literal with each quote doubled. -/
def doubled (quote : Char) (body : List Char) : List Char :=
  body.flatMap fun c => if c = quote then [c, c] else [c]

theorem doubled_cons (quote c : Char) (body : List Char) :
    doubled quote (c :: body) = (if c = quote then [c, c] else [c]) ++ doubled quote body := rfl

/-- The lexemes that a text consists of. What follows a literal does not begin with its quote, or
the two quotes would be a pair in the literal. -/
inductive Lexed : List Char → List Lexeme → Prop
  | nil : Lexed [] []
  | plain {c : Char} {cs : List Char} {ls : List Lexeme} (hc : isQuote c = false)
    (h : Lexed cs ls) : Lexed (c :: cs) (.plain c :: ls)
  | ended {quote : Char} {cs : List Char} {ls : List Lexeme} (hq : isQuote quote = true)
    (body : List Char) (hnext : cs.head? ≠ some quote) (h : Lexed cs ls) :
    Lexed (quote :: (doubled quote body ++ quote :: cs)) (.literal quote body true :: ls)
  | unended {quote : Char} (hq : isQuote quote = true) (body : List Char) :
    Lexed (quote :: doubled quote body) [.literal quote body false]

namespace Lexeme

/-- How the lexeme is spelled. -/
def text : Lexeme → List Char
  | .plain c => [c]
  | .literal quote body ended => quote :: (doubled quote body ++ if ended then [quote] else [])

/-- Whether a lexeme is a literal. -/
def isLiteral : Lexeme → Bool
  | .plain _ => false
  | .literal .. => true

/-- The characters of the lexeme, each with the mark whether it belongs to a literal. -/
def marked (l : Lexeme) : List (Char × Bool) :=
  l.text.map (·, l.isLiteral)

@[simp] theorem marked_plain (c : Char) : (plain c).marked = [(c, false)] := rfl

@[simp] theorem marked_literal (quote : Char) (body : List Char) (ended : Bool) :
    (literal quote body ended).marked =
      (quote :: (doubled quote body ++ if ended then [quote] else [])).map (·, true) := rfl

end Lexeme

/-! ## The lexer -/

mutual

/-- The lexemes of a text that begins outside of literals. -/
def lexemesOf : List Char → List Lexeme
  | [] => []
  | c :: rest => if isQuote c then literalsOf c [] rest else .plain c :: lexemesOf rest

/-- The lexemes of a text that begins in a literal with this quote, of which the body has been read
so far. -/
def literalsOf (quote : Char) (body : List Char) : List Char → List Lexeme
  | [] => [.literal quote body false]
  | [c] => if c = quote then [.literal quote body true] else [.literal quote (body ++ [c]) false]
  | c :: next :: rest =>
    if c ≠ quote then literalsOf quote (body ++ [c]) (next :: rest)
    else if next = quote then literalsOf quote (body ++ [quote]) rest
    else .literal quote body true :: lexemesOf (next :: rest)

end

/-- The lexemes of a text. -/
def lexemes (text : String) : List Lexeme :=
  lexemesOf text.toList

section Steps

variable {quote c : Char} (body cs : List Char)

/-- Another character goes to the body. -/
theorem literalsOf_other (h : c ≠ quote) :
    literalsOf quote body (c :: cs) = literalsOf quote (body ++ [c]) cs := by
  cases cs with
  | nil => rw [literalsOf, literalsOf, if_neg h]
  | cons next rest => rw [literalsOf, if_pos h]

/-- A doubled quote goes to the body once. -/
theorem literalsOf_pair :
    literalsOf quote body (quote :: quote :: cs) = literalsOf quote (body ++ [quote]) cs := by
  rw [literalsOf, if_neg (not_not_intro rfl), if_pos rfl]

/-- A single quote ends the literal. -/
theorem literalsOf_end (h : cs.head? ≠ some quote) :
    literalsOf quote body (quote :: cs) = .literal quote body true :: lexemesOf cs := by
  cases cs with
  | nil => rw [literalsOf, if_pos rfl, lexemesOf]
  | cons next rest =>
    have hnext : next ≠ quote := fun heq => h (congrArg some heq)
    rw [literalsOf, if_neg (not_not_intro rfl), if_neg hnext]

/-- A body with its quotes doubled is read as the body. -/
theorem literalsOf_doubled (read : List Char) :
    literalsOf quote read (doubled quote body ++ cs) = literalsOf quote (read ++ body) cs := by
  induction body generalizing read with
  | nil => simp [doubled]
  | cons c body ih =>
    rw [doubled_cons, List.append_cons read c body]
    split
    · next hc =>
      subst hc
      exact (literalsOf_pair read _).trans (ih _)
    · next hc => exact (literalsOf_other read _ hc).trans (ih _)

end Steps

/-! ## Every text is read in one way -/

mutual

/-- What the lexer reads follows the grammar. -/
theorem lexed_lexemesOf : (cs : List Char) → Lexed cs (lexemesOf cs)
  | [] => .nil
  | c :: rest => by
    rw [lexemesOf]
    split
    · next hc => exact lexed_literalsOf hc [] rest
    · next hc => exact .plain (Bool.eq_false_iff.mpr hc) (lexed_lexemesOf rest)

/-- Inside a literal, what the lexer reads follows the grammar. -/
theorem lexed_literalsOf {quote : Char} (hq : isQuote quote = true) (body : List Char) :
    (cs : List Char) → Lexed (quote :: (doubled quote body ++ cs)) (literalsOf quote body cs)
  | [] => by
    rw [List.append_nil]
    exact .unended hq body
  | c :: cs => by
    by_cases hc : c = quote
    · subst hc
      cases cs with
      | nil =>
        rw [literalsOf_end body [] nofun]
        exact .ended hq body nofun .nil
      | cons next rest =>
        by_cases hnext : next = c
        · subst hnext
          rw [literalsOf_pair]
          simpa [doubled] using lexed_literalsOf hq (body ++ [next]) rest
        · have hhead : (next :: rest).head? ≠ some c := fun heq => hnext (Option.some.inj heq)
          rw [literalsOf_end body _ hhead]
          exact .ended hq body hhead (lexed_lexemesOf (next :: rest))
    · rw [literalsOf_other body cs hc]
      simpa [doubled, hc] using lexed_literalsOf hq (body ++ [c]) cs

end

/-- The grammar allows only what the lexer reads. -/
theorem Lexed.eq_lexemesOf {cs : List Char} {ls : List Lexeme} (h : Lexed cs ls) :
    ls = lexemesOf cs := by
  induction h with
  | nil => rfl
  | plain hc _ ih => rw [lexemesOf, if_neg (by simp [hc]), ← ih]
  | ended hq body hnext _ ih =>
    rw [lexemesOf, if_pos hq, literalsOf_doubled, literalsOf_end _ _ hnext, ← ih]
    rfl
  | @unended quote hq body =>
    have hbody : literalsOf quote [] (doubled quote body ++ []) = literalsOf quote body [] :=
      literalsOf_doubled body [] []
    rw [lexemesOf, if_pos hq, ← List.append_nil (doubled quote body), hbody, literalsOf]

/-- The grammar and the lexer say the same. -/
theorem lexed_iff {cs : List Char} {ls : List Lexeme} : Lexed cs ls ↔ ls = lexemesOf cs := by
  constructor
  · exact Lexed.eq_lexemesOf
  · rintro rfl
    exact lexed_lexemesOf cs

theorem mark_plain {c : Char} (h : isQuote c = false) (cs : List Char) :
    mark none (c :: cs) = (c, false) :: mark none cs := by
  simp [mark, QuoteState.next, QuoteState.quotes, h]

/-- A quote opens a literal and belongs to it. -/
theorem mark_opening {quote : Char} (h : isQuote quote = true) (cs : List Char) :
    mark none (quote :: cs) = (quote, true) :: mark (some quote) cs := by
  simp [mark, QuoteState.next, QuoteState.quotes, h]

theorem mark_inside {quote c : Char} (h : c ≠ quote) (cs : List Char) :
    mark (some quote) (c :: cs) = (c, true) :: mark (some quote) cs := by
  simp [mark, QuoteState.next, QuoteState.quotes, h]

/-- The quote closes the literal and belongs to it. -/
theorem mark_closing (quote : Char) (cs : List Char) :
    mark (some quote) (quote :: cs) = (quote, true) :: mark none cs := by
  simp [mark, QuoteState.next, QuoteState.quotes]

/-- At a pair of quotes the walk leaves the quotation for one character, which is the quote that
begins it again. -/
theorem mark_doubled {quote : Char} (hq : isQuote quote = true) (body cs : List Char) :
    mark (some quote) (doubled quote body ++ cs) =
      (doubled quote body).map (·, true) ++ mark (some quote) cs := by
  induction body with
  | nil => rfl
  | cons c body ih =>
    rw [doubled_cons, List.append_assoc, List.map_append, List.append_assoc, ← ih]
    split
    · next hc =>
      -- The walk takes the first quote of a pair for the end and the second one for a beginning.
      subst hc
      exact (mark_closing c _).trans (congrArg _ (mark_opening hq _))
    · next hc => exact mark_inside hc _

/-- The walk marks exactly the literals of the grammar. -/
theorem Lexed.mark_eq {cs : List Char} {ls : List Lexeme} (h : Lexed cs ls) :
    mark none cs = ls.flatMap Lexeme.marked := by
  induction h with
  | nil => rfl
  | plain hc _ ih =>
    rw [mark_plain hc, ih]
    rfl
  | ended hq body _ _ ih =>
    rw [mark_opening hq, mark_doubled hq, mark_closing, ih]
    simp
  | unended hq body =>
    have hbody := mark_doubled hq body []
    rw [List.append_nil] at hbody
    rw [mark_opening hq, hbody]
    simp [mark]

/-! ## Question marks -/

/-- The only lexeme with a placeholder is a plain question mark. -/
theorem countP_marked (l : Lexeme) :
    l.marked.countP isPlaceholder = if l = .plain '?' then 1 else 0 := by
  cases l with
  | plain c =>
    by_cases hc : c = '?' <;> simp [isPlaceholder, hc]
  | literal quote body ended =>
    rw [if_neg nofun, List.countP_eq_zero]
    intro m hm
    obtain ⟨c, -, rfl⟩ := List.mem_map.mp hm
    simp [isPlaceholder, Lexeme.isLiteral]

/-- The placeholders are the plain question marks. -/
theorem countP_flatMap_marked (ls : List Lexeme) :
    (ls.flatMap Lexeme.marked).countP isPlaceholder = ls.count (.plain '?') := by
  induction ls with
  | nil => rfl
  | cons l ls ih => simp [List.countP_append, countP_marked, ih, List.count_cons, Nat.add_comm]

/-- Every text has one reading as lexemes. The walk marks as quoted the characters of its literals,
their quotes included, and no others; so the placeholders of the text are the question marks outside
of literals. -/
theorem mark_eq_lexemes (text : String) :
    (∀ ls, Lexed text.toList ls ↔ ls = lexemes text) ∧
      mark none text.toList = (lexemes text).flatMap Lexeme.marked ∧
      placeholders text = (lexemes text).count (.plain '?') := by
  have hmark : mark none text.toList = (lexemes text).flatMap Lexeme.marked :=
    (lexed_lexemesOf text.toList).mark_eq
  exact ⟨fun ls => lexed_iff, hmark, by rw [placeholders, hmark, countP_flatMap_marked]⟩

/-- The pair of quotes stands for one quote in the first literal; no quote ends the second one. -/
example : lexemes "'it''s \"'?\"'" =
    [.literal '\'' "it's \"".toList true, .plain '?', .literal '"' "'".toList false] := by
  decide

end RowMap.Sql
