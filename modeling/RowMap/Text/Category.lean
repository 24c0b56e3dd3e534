import RowMap.Decimal.Digits
import RowMap.Text.Blank
import RowMap.Text.Case
import RowMap.Text.CategoryTable
import RowMap.Text.Hex
import RowMap.Text.ScriptTable

/-!
# Classes of characters

The general category of a character and the classes built from it, the scripts, and the characters
that are equal up to case.
-/

namespace RowMap.Text

/-! ## General categories -/

/-- The number of hexadecimal digits at the beginning of a text, and the rest. -/
def takeHex (value : Option Nat) : List Char → Option Nat × List Char
  | [] => (value, [])
  | c :: rest =>
    if c.isUpper then (value, c :: rest)
    else takeHex (some (16 * value.getD 0 + (hexValue? c).getD 0)) rest

/-- The end of each run with its category; `rounds` bounds the number of runs. -/
def readRuns : (rounds start : Nat) → List Char → List (Nat × String)
  | rounds + 1, start, major :: minor :: rest =>
    let (length, rest) := takeHex none rest
    let stop := start + length.getD 1
    (stop, String.ofList [major, minor]) :: readRuns rounds stop rest
  | _, _, _ => []

/-- The categories in order, each with the code point after its run. -/
def categoryEnds : List (Nat × String) :=
  let text := categoryRuns.flatMap String.toList
  readRuns text.length 0 text

/-- The two letters of the general category of a character. -/
def category (c : Char) : String :=
  match categoryEnds.find? (c.toNat < ·.1) with
  | some run => run.2
  | none => "Cn"

/-- Whether the category of a character is one of some. -/
def isOf (categories : List String) (c : Char) : Bool :=
  categories.contains (category c)

/-! ## Classes -/

def isDecimalDigit (c : Char) : Bool :=
  if c.toNat < 128 then Decimal.isDigit c else category c = "Nd"

def isLetter (c : Char) : Bool :=
  isOf ["Lu", "Ll", "Lt", "Lm", "Lo"] c

/-- Symbols that count as letters: the circled, squared and parenthesized capital letters. -/
def isLetterSymbol (c : Char) : Bool :=
  inRanges [(0x24b6, 0x24e9), (0x1f130, 0x1f149), (0x1f150, 0x1f169), (0x1f170, 0x1f189)] c

/-- A character of an ASCII word: a letter, a digit or the underscore. -/
def isAsciiWord (c : Char) : Bool :=
  c.isAlphanum || c = '_'

/-- A character of a word: letters, marks, digits, connecting punctuation and the joiners. -/
def isWord (c : Char) : Bool :=
  if c.toNat < 128 then isAsciiWord c
  else isLetter c || isOf ["Mn", "Mc", "Me", "Nd", "Nl", "Pc"] c || isLetterSymbol c
    || c.toNat = 0x200c || c.toNat = 0x200d

def inScript (name : String) (c : Char) : Bool :=
  match scriptRanges.lookup name with
  | some ranges => inRanges ranges c
  | none => false

/-! ## Characters up to case -/

/-- The character that stands for all that are equal to this one up to case. -/
def fold (c : Char) : Char :=
  (foldRuns.findSome? (·.image? c)).getD c

/-- The character that a run maps to the given one. -/
def CaseRun.preimage? (run : CaseRun) (c : Char) : Option Char :=
  let d := Char.ofNat (run.first + (c.toNat - run.image))
  if run.image ≤ c.toNat ∧ run.image? d = some c then some d else none

/-- All characters that are equal to a character up to case. -/
def caseVariants (c : Char) : List Char :=
  fold c :: foldRuns.filterMap (·.preimage? (fold c))

end RowMap.Text
