import RowMap.Json.Number
import RowMap.Text.Hex

/-!
# JSON text

`Json.text` writes a value without blanks, and `Json.read?` reads a text strictly: one value with
blanks around it, no trailing commas, no comments, and at most 127 arrays and objects nested in each
other.
-/

namespace RowMap.Json

open Decimal (isDigit)
open Text (hexDigit)

/-- A character inside of quotes; only the quote, the backslash and the control characters below
U+0020 are escaped. -/
def escape (c : Char) : List Char :=
  if c = '"' then ['\\', '"']
  else if c = '\\' then ['\\', '\\']
  else if c = '\n' then ['\\', 'n']
  else if c = '\r' then ['\\', 'r']
  else if c = '\t' then ['\\', 't']
  else if c.toNat = 8 then ['\\', 'b']
  else if c.toNat = 12 then ['\\', 'f']
  else if c.toNat < 32 then
    ['\\', 'u', '0', '0', hexDigit (c.toNat / 16), hexDigit (c.toNat % 16)]
  else [c]

/-- A string in quotes. -/
def quoted (s : String) : List Char :=
  '"' :: s.toList.flatMap escape ++ ['"']

mutual

/-- The characters of a value. -/
def chars : Json → List Char
  | .null => "null".toList
  | .boolean true => "true".toList
  | .boolean false => "false".toList
  | .number n => n.text
  | .string s => quoted s
  | .array items => '[' :: charsItems items ++ [']']
  | .object fields => Char.ofNat 123 :: charsFields fields ++ [Char.ofNat 125]

/-- Items with commas between them. -/
def charsItems : List Json → List Char
  | [] => []
  | [item] => item.chars
  | item :: rest => item.chars ++ ',' :: charsItems rest

/-- Fields with commas between them. -/
def charsFields : List (String × Json) → List Char
  | [] => []
  | [(key, value)] => quoted key ++ ':' :: value.chars
  | (key, value) :: rest => quoted key ++ ':' :: value.chars ++ ',' :: charsFields rest

end

def text (j : Json) : String :=
  String.ofList j.chars

/-! ## Reading

Reading the beginning of a text yields what was read and the rest of the text. -/

/-- Blanks of the format. -/
def isBlank (c : Char) : Bool :=
  c = ' ' || c = '\t' || c = '\n' || c = '\r'

/-- The characters behind the blanks. -/
def skipBlanks (cs : List Char) : List Char :=
  cs.dropWhile isBlank

/-- Four hexadecimal digits. -/
def readHex : List Char → Option (Nat × List Char)
  | a :: b :: c :: d :: rest => (Text.basedNumber? 16 [a, b, c, d]).map (·, rest)
  | _ => none

/-- The character of an escape sequence after `\u`; a character beyond U+FFFF takes two such
sequences, the halves of a surrogate pair. -/
def readUnicode (cs : List Char) : Option (Char × List Char) := do
  let (high, rest) ← readHex cs
  if high < 0xd800 ∨ 0xe000 ≤ high then return (Char.ofNat high, rest)
  if 0xdc00 ≤ high then none
  match rest with
  | '\\' :: 'u' :: rest =>
    let (low, rest) ← readHex rest
    if 0xdc00 ≤ low ∧ low < 0xe000 then
      return (Char.ofNat (0x10000 + 1024 * (high - 0xd800) + (low - 0xdc00)), rest)
    else none
  | _ => none

/-- The character of an escape sequence after the backslash. -/
def readEscape : List Char → Option (Char × List Char)
  | '"' :: rest => some ('"', rest)
  | '\\' :: rest => some ('\\', rest)
  | '/' :: rest => some ('/', rest)
  | 'b' :: rest => some (Char.ofNat 8, rest)
  | 'f' :: rest => some (Char.ofNat 12, rest)
  | 'n' :: rest => some ('\n', rest)
  | 'r' :: rest => some ('\r', rest)
  | 't' :: rest => some ('\t', rest)
  | 'u' :: rest => readUnicode rest
  | _ => none

/-- The characters of a string up to its closing quote. Each round takes at least one character, so
as many rounds as there are characters suffice. -/
def readString : (rounds : Nat) → List Char → Option (List Char × List Char)
  | 0, _ => none
  | _, [] => none
  | rounds + 1, c :: rest =>
    if c = '"' then some ([], rest)
    else if c = '\\' then do
      let (c, rest) ← readEscape rest
      let (cs, rest) ← readString rounds rest
      return (c :: cs, rest)
    else if c.toNat < 32 then none
    else do
      let (cs, rest) ← readString rounds rest
      return (c :: cs, rest)

/-- A string up to its closing quote. -/
def readQuoted (cs : List Char) : Option (String × List Char) :=
  (readString cs.length cs).map fun (s, rest) => (String.ofList s, rest)

/-- A number literal without its sign. The whole part has no leading zero. -/
def readLiteral (negative : Bool) (cs : List Char) : Option (Number.Literal × List Char) := do
  let whole := cs.takeWhile isDigit
  if whole = [] ∨ (whole.head? = some '0' ∧ 1 < whole.length) then none
  let rest := cs.dropWhile isDigit
  let (fraction, rest) ← match rest with
    | '.' :: rest =>
      let ds := rest.takeWhile isDigit
      if ds = [] then none else some (some ds, rest.dropWhile isDigit)
    | _ => some (none, rest)
  let (exponent, rest) ← match rest with
    | [] => some (none, [])
    | mark :: after =>
      if mark = 'e' ∨ mark = 'E' then
        let signed := match after with
          | '+' :: _ => after.tail
          | '-' :: _ => after.tail
          | _ => after
        let ds := signed.takeWhile isDigit
        if ds = [] then none
        else
          let magnitude : Int := Decimal.value ds
          some (some (if after.head? = some '-' then -magnitude else magnitude),
            signed.dropWhile isDigit)
      else some (none, rest)
  return (⟨negative, whole, fraction, exponent⟩, rest)

/-- A number with its sign. -/
def readNumber (cs : List Char) : Option (Json × List Char) := do
  let (literal, rest) ← match cs with
    | '-' :: rest => readLiteral true rest
    | _ => readLiteral false cs
  let n ← Number.ofLiteral? literal
  return (.number n, rest)

/-- The items of an array after its first bracket, blanks skipped; `readItem` reads one of them. -/
def readItems (readItem : List Char → Option (Json × List Char)) :
    (rounds : Nat) → List Char → Option (List Json × List Char)
  | 0, _ => none
  | rounds + 1, cs => do
    let (item, rest) ← readItem cs
    match skipBlanks rest with
    | ',' :: rest =>
      let (items, rest) ← readItems readItem rounds rest
      return (item :: items, rest)
    | ']' :: rest => return ([item], rest)
    | _ => none

/-- The fields of an object after its first brace, blanks skipped; `readItem` reads a value. -/
def readFields (readItem : List Char → Option (Json × List Char)) :
    (rounds : Nat) → List Char → Option (List (String × Json) × List Char)
  | 0, _ => none
  | rounds + 1, cs =>
    match skipBlanks cs with
    | '"' :: cs => do
      let (key, rest) ← readQuoted cs
      match skipBlanks rest with
      | ':' :: rest =>
        let (value, rest) ← readItem rest
        match skipBlanks rest with
        | [] => none
        | c :: rest =>
          if c = ',' then
            let (fields, rest) ← readFields readItem rounds rest
            return ((key, value) :: fields, rest)
          else if c = Char.ofNat 125 then return ([(key, value)], rest)
          else none
      | _ => none
    | _ => none

/-- A word that stands at the beginning of a text. -/
def readWord (word : List Char) (value : Json) (cs : List Char) : Option (Json × List Char) :=
  if cs.take word.length = word then some (value, cs.drop word.length) else none

/-- One value after any blanks. Entering an array or an object lowers the depth that is left, and
the last level must not be entered. -/
def readValue : (depth : Nat) → List Char → Option (Json × List Char)
  | 0, _ => none
  | depth + 1, cs =>
    match skipBlanks cs with
    | [] => none
    | c :: rest =>
      if c = 'n' then readWord "null".toList .null (c :: rest)
      else if c = 't' then readWord "true".toList (.boolean true) (c :: rest)
      else if c = 'f' then readWord "false".toList (.boolean false) (c :: rest)
      else if c = '"' then (readQuoted rest).map fun (s, rest) => (.string s, rest)
      else if c = '[' then
        if depth = 0 then none
        else match skipBlanks rest with
          | ']' :: rest => some (.array [], rest)
          | _ => (readItems (readValue depth) rest.length rest).map
              fun (items, rest) => (.array items, rest)
      else if c = Char.ofNat 123 then
        if depth = 0 then none
        else
          let inner := skipBlanks rest
          if inner.head? = some (Char.ofNat 125) then some (.object [], inner.tail)
          else (readFields (readValue depth) rest.length rest).map
              fun (fields, rest) => (.object fields, rest)
      else readNumber (c :: rest)

/-- How deep arrays and objects may be nested. -/
def maxDepth : Nat := 128

/-- The syntax tree of a text that holds one value. -/
def read? (text : String) : Option Json := do
  let (j, rest) ← readValue maxDepth text.toList
  if skipBlanks rest = [] then some j else none

end RowMap.Json

namespace RowMap.Document

def text (d : Document) : String :=
  d.tree.text

/-- The value of a text, in canonical form. -/
def read? (text : String) : Option Document :=
  (Json.read? text).map ofJson

end RowMap.Document
