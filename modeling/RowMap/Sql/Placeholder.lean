import RowMap.Decimal.Digits

/-!
# Placeholders

A question mark stands for a parameter unless it is quoted. `Sql.mark` walks a text and tells of
each character whether it is quoted: a quote, single or double, opens a quotation that the next
quote of the same kind closes, and both count as quoted. The walk can be split anywhere
(`mark_append`), the quotation left open at the split being carried over (`stateAfter`).

`placeholders` counts the question marks that are not quoted, `numbered` replaces them by `$1`,
`$2` and so on.
-/

namespace RowMap.Sql

/-- The quotation a text is in, if any: the quote that will close it. -/
abbrev QuoteState := Option Char

/-- The characters that open and close literals. -/
def isQuote (c : Char) : Bool :=
  c = '\'' || c = '"'

/-- The state after one more character. -/
def QuoteState.next (state : QuoteState) (c : Char) : QuoteState :=
  match state with
  | some quote => if c = quote then none else some quote
  | none => if isQuote c then some c else none

/-- Whether a character read in the given state is quoted. -/
def QuoteState.quotes (state : QuoteState) (c : Char) : Bool :=
  state.isSome || isQuote c

/-- The state after a text. -/
def stateAfter (state : QuoteState) (cs : List Char) : QuoteState :=
  cs.foldl QuoteState.next state

/-- Each character of a text with the mark whether it is quoted. -/
def mark (state : QuoteState) : List Char → List (Char × Bool)
  | [] => []
  | c :: rest => (c, state.quotes c) :: mark (state.next c) rest

/-- Whether a marked character stands for a parameter. -/
def isPlaceholder (m : Char × Bool) : Bool :=
  m.1 = '?' && !m.2

/-- The number of parameters that a text asks for. -/
def placeholders (text : String) : Nat :=
  (mark none text.toList).countP isPlaceholder

/-- Writes marked characters with their placeholders numbered, `count` placeholders having gone
before. -/
def numberedFrom (count : Nat) : List (Char × Bool) → List Char
  | [] => []
  | m :: rest =>
    if isPlaceholder m then '$' :: Decimal.digits (count + 1) ++ numberedFrom (count + 1) rest
    else m.1 :: numberedFrom count rest

/-- The text with its placeholders numbered from one. -/
def numbered (text : String) : String :=
  String.ofList (numberedFrom 0 (mark none text.toList))

theorem stateAfter_append (state : QuoteState) (as bs : List Char) :
    stateAfter state (as ++ bs) = stateAfter (stateAfter state as) bs := by
  simp [stateAfter]

/-- The second part is marked from where the first one has left the walk. -/
theorem mark_append (state : QuoteState) (as bs : List Char) :
    mark state (as ++ bs) = mark state as ++ mark (stateAfter state as) bs := by
  induction as generalizing state with
  | nil => rfl
  | cons c as ih => simp [mark, stateAfter, ih]

/-- Marking keeps the characters. -/
theorem map_fst_mark (state : QuoteState) (cs : List Char) :
    (mark state cs).map Prod.fst = cs := by
  induction cs generalizing state with
  | nil => rfl
  | cons c cs ih => simp [mark, ih]

end RowMap.Sql
