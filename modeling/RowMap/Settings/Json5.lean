import RowMap.Settings.Config
import RowMap.Text.Category

/-!
# JSON5

Reading JSON5: JSON with comments, names as keys, strings in single quotes that may go over several
lines, commas after the last item, and more ways to write a number.

Reading the beginning of a text yields what was read and the rest of the text. Recursion is bounded
by a number of rounds; each takes at least one character.
-/

namespace RowMap.Json5

/-- Characters that end a line. -/
def isLineEnd (c : Char) : Bool :=
  c = '\n' || c = '\r' || c.toNat = 0x2028 || c.toNat = 0x2029

/-- Blanks of the format. -/
def isBlank (c : Char) : Bool :=
  (Text.isBlank c && c.toNat ≠ 0x85) || c.toNat = 0xfeff

/-- The text after the end of a comment that may go over several lines. -/
def afterComment? : List Char → Option (List Char)
  | [] => none
  | '*' :: '/' :: rest => some rest
  | _ :: rest => afterComment? rest

/-- Skips blanks and comments. -/
def skipSpace : (rounds : Nat) → List Char → List Char
  | 0, cs => cs
  | rounds + 1, cs =>
    match cs.dropWhile isBlank with
    | '/' :: '/' :: rest => skipSpace rounds (rest.dropWhile (!isLineEnd ·))
    | '/' :: '*' :: rest =>
      match afterComment? rest with
      | some rest => skipSpace rounds rest
      | none => '/' :: '*' :: rest
    | rest => rest

def skip (cs : List Char) : List Char :=
  skipSpace (cs.length + 1) cs

/-! ## Strings and names -/

/-- The characters of an escape sequence after the backslash; a line break stands for none. -/
def readEscape : List Char → Option (List Char × List Char)
  | [] => none
  | '\r' :: '\n' :: rest => some ([], rest)
  | 'x' :: a :: b :: rest => (Text.codedChar? [a, b]).map fun c => ([c], rest)
  | c :: rest =>
    if isLineEnd c then some ([], rest)
    else if c = 'u' then (Json.readUnicode rest).map fun (c, rest) => ([c], rest)
    else if c = '0' then
      if rest.head?.any Char.isDigit then none else some ([Char.ofNat 0], rest)
    else if c = 'x' ∨ c.isDigit then none
    else
      let codes := [('b', 8), ('f', 12), ('n', 10), ('r', 13), ('t', 9), ('v', 11)]
      some ([((codes.lookup c).map Char.ofNat).getD c], rest)

/-- The characters of a string up to its closing quote. -/
def readString (quote : Char) : (rounds : Nat) → List Char → Option (List Char × List Char)
  | 0, _ => none
  | _, [] => none
  | rounds + 1, c :: rest =>
    if c = quote then some ([], rest)
    else if c = '\n' ∨ c = '\r' then none
    else do
      let (part, rest) ← if c = '\\' then readEscape rest else some ([c], rest)
      let (cs, rest) ← readString quote rounds rest
      return (part ++ cs, rest)

/-- A string in quotes, from the opening quote on. -/
def readQuoted : List Char → Option (String × List Char)
  | [] => none
  | quote :: rest =>
    if quote = '"' ∨ quote = '\'' then
      (readString quote (rest.length + 1) rest).map fun (cs, rest) => (String.ofList cs, rest)
    else none

/-- Characters that a name can begin with. -/
def isNameStart (c : Char) : Bool :=
  c = '$' || c = '_' || Text.isLetter c || Text.isOf ["Nl"] c

/-- Characters inside a name. -/
def isNameChar (c : Char) : Bool :=
  isNameStart c || Text.isOf ["Mn", "Mc", "Nd", "Pc"] c || c.toNat = 0x200c || c.toNat = 0x200d

/-- A key: a string, or a name. -/
def readKey (cs : List Char) : Option (String × List Char) :=
  (readQuoted cs).or <|
    if cs.head?.any isNameStart then
      some (String.ofList (cs.takeWhile isNameChar), cs.dropWhile isNameChar)
    else none

/-- An unsigned decimal number; without a point and an exponent it is a 64-bit integer. -/
def decimal? (negative : Bool) (cs : List Char) : Option Config := do
  let whole := cs.takeWhile Decimal.isDigit
  if whole.head? = some '0' ∧ 1 < whole.length then none
  if cs = whole ∧ cs ≠ [] then Config.int64? negative (Decimal.value cs)
  else (Decimal.read? cs).map fun d => .float (Binary64.ofDecimal negative d)

/-- A truth value, null, or a number with an optional sign. -/
def scalar? (cs : List Char) : Option Config :=
  let negative : Bool := cs.head? = some '-'
  let unsigned := if negative || cs.head? = some '+' then cs.tail else cs
  if cs = "null".toList then some .nothing
  else if cs = "true".toList then some (.boolean true)
  else if cs = "false".toList then some (.boolean false)
  else if unsigned = "Infinity".toList then some (.float (Binary64.infinity negative))
  else if unsigned = "NaN".toList then some (.float .nan)
  else match unsigned with
    | '0' :: 'x' :: digits => (Text.basedNumber? 16 digits).bind (Config.int64? negative)
    | '0' :: 'X' :: digits => (Text.basedNumber? 16 digits).bind (Config.int64? negative)
    | _ => decimal? negative unsigned

/-- Characters of a number or a word. -/
def isScalarChar (c : Char) : Bool :=
  c.isAlphanum || c = '+' || c = '-' || c = '.'

/-! ## Values -/

mutual

/-- A value of any kind, with rounds for what is nested in it. -/
def readValue : (rounds : Nat) → List Char → Option (Config × List Char)
  | 0, _ => none
  | rounds + 1, cs =>
    if cs.head? = some '[' then
      (readItems rounds (skip cs.tail)).map fun (items, rest) => (.array items, rest)
    else if cs.head? = some (Char.ofNat 123) then
      (readFields rounds (skip cs.tail)).map fun (fields, rest) => (.table fields, rest)
    else match readQuoted cs with
      | some (text, rest) => some (.string text, rest)
      | none => (scalar? (cs.takeWhile isScalarChar)).map (·, cs.dropWhile isScalarChar)

/-- The items of an array up to its closing bracket. -/
def readItems : (rounds : Nat) → List Char → Option (List Config × List Char)
  | 0, _ => none
  | rounds + 1, cs =>
    match cs with
    | ']' :: rest => some ([], rest)
    | _ => do
      let (item, rest) ← readValue rounds cs
      match skip rest with
      | ',' :: rest =>
        let (items, rest) ← readItems rounds (skip rest)
        return (item :: items, rest)
      | ']' :: rest => return ([item], rest)
      | _ => none

/-- The fields of an object up to its closing brace. -/
def readFields : (rounds : Nat) → List Char → Option (List (String × Config) × List Char)
  | 0, _ => none
  | rounds + 1, cs =>
    if cs.head? = some (Char.ofNat 125) then some ([], cs.tail)
    else do
      let (key, rest) ← readKey cs
      match skip rest with
      | ':' :: rest =>
        let (value, rest) ← readValue rounds (skip rest)
        let rest := skip rest
        if rest.head? = some ',' then
          let (fields, rest) ← readFields rounds (skip rest.tail)
          return ((key, value) :: fields, rest)
        else if rest.head? = some (Char.ofNat 125) then return ([(key, value)], rest.tail)
        else none
      | _ => none

end

/-- The fields of a text that holds an object. -/
def read? (text : String) : Option (List (String × Config)) := do
  let cs := text.toList
  match ← readValue (2 * cs.length + 1) (skip cs) with
  | (.table fields, rest) => if skip rest = [] then some fields else none
  | _ => none

end RowMap.Json5
