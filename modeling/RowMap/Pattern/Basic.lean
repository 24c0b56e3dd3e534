/-!
# Patterns

A pattern relates positions of a text: it leads from where a match begins to where it ends. Marking
all positions from which a match may begin, `Pattern.ends` marks all positions where one may end, so
matching follows the structure of the pattern and takes no backtracking. A text matches if any part
of it does.

A text of `n` characters has `n + 1` positions. Repeating a pattern more than `n + 1` times adds
nothing, since then at least one repetition has matched the empty text.
-/

namespace RowMap

inductive Pattern where
  | empty
  /-- One character of a class. -/
  | one (accepts : Char → Bool)
  /-- A condition on the characters before and after a position. -/
  | boundary (holds : Option Char → Option Char → Bool)
  | sequence (first second : Pattern)
  | choice (first second : Pattern)
  | repeated (body : Pattern) (min : Nat) (max : Option Nat)

namespace Pattern

/-- Which positions of a text are marked. -/
abbrev Marks := List Bool

/-- The characters before and after each position. -/
def gaps (text : List Char) : List (Option Char × Option Char) :=
  (none :: text.map some).zip (text.map some ++ [none])

/-- The marks moved over one character that is accepted. -/
def advance (accepts : Char → Bool) (text : List Char) (marks : Marks) : Marks :=
  false :: List.zipWith (fun c marked => marked && accepts c) text marks

def union (a b : Marks) : Marks :=
  List.zipWith or a b

/-- Applies a function a number of times. -/
def iterate (f : Marks → Marks) : Nat → Marks → Marks
  | 0, marks => marks
  | n + 1, marks => iterate f n (f marks)

/-- The positions where a match of the pattern may end if it begins at a marked position. -/
def ends (text : List Char) : Pattern → Marks → Marks
  | empty, marks => marks
  | one accepts, marks => advance accepts text marks
  | boundary holds, marks =>
    List.zipWith (fun gap marked => marked && holds gap.1 gap.2) (gaps text) marks
  | sequence first second, marks => second.ends text (first.ends text marks)
  | choice first second, marks => union (first.ends text marks) (second.ends text marks)
  | repeated body min max, marks =>
    let rounds := text.length + 1
    let required := iterate (body.ends text) (Nat.min min rounds) marks
    let further := match max with
      | some max => Nat.min (max - min) rounds
      | none => rounds
    iterate (fun marks => union marks (body.ends text marks)) further required

/-- Whether some part of the text matches. -/
def isMatch (p : Pattern) (text : String) : Bool :=
  let cs := text.toList
  (p.ends cs (List.replicate (cs.length + 1) true)).any id

end Pattern

end RowMap
