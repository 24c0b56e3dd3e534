import RowMap.Settings.Config
import RowMap.Text.Blank

/-!
# Sectioned texts

Reading texts of keys and values, one on a line, that may be divided into sections by headers such
as `[section]`. Every value is a string. The keys before the first header are fields of their own,
and those of a section are fields of a table; a section that occurs again replaces the earlier one.

A backslash escapes the next character wherever text is read, and a comment takes a whole line from
its first character on.
-/

namespace RowMap.Ini

open Text (trim)

/-! ## Parts of a line -/

/-- The character that an escape sequence of one letter stands for. -/
def escaped (c : Char) : Char :=
  if c = '0' then Char.ofNat 0
  else if c = 'a' then Char.ofNat 7
  else if c = 'b' then Char.ofNat 8
  else if c = 't' then '\t'
  else if c = 'n' then '\n'
  else if c = 'r' then '\r'
  else c

/-- Reads text up to a character at which it stops, which is left in the rest; `open` text may also
reach the end. A backslash before a line break joins two lines. -/
def readUntil (stop : Char → Bool) (isOpen : Bool) : List Char → Option (List Char × List Char)
  | [] => if isOpen then some ([], []) else none
  | ['\\'] => none
  | '\\' :: 'x' :: a :: b :: c :: d :: rest => do
    let coded ← Text.codedChar? [a, b, c, d]
    let (cs, rest) ← readUntil stop isOpen rest
    return (coded :: cs, rest)
  | '\\' :: c :: rest => do
    if c = 'x' then none
    let (cs, rest) ← readUntil stop isOpen rest
    return (if c = '\n' then cs else escaped c :: cs, rest)
  | c :: rest =>
    if stop c then some ([], c :: rest)
    else (readUntil stop isOpen rest).map fun (cs, rest) => (c :: cs, rest)

def isLineEnd (c : Char) : Bool :=
  c = '\n' || c = '\r'

/-- A value up to the end of its line: quoted parts as they stand, then the remaining text without
the blanks around it. Each round takes one part. -/
def readValue : (rounds : Nat) → (afterQuote : Bool) → List Char →
    Option (List Char × List Char)
  | 0, _, _ => none
  | rounds + 1, afterQuote, cs =>
    let quoted (quote : Char) (rest : List Char) : Option (List Char × List Char) := do
      let (part, rest) ← readUntil (· = quote) false rest
      let (parts, rest) ← readValue rounds true rest.tail
      return (part ++ parts, rest)
    match cs with
    | '"' :: rest => quoted '"' rest
    | '\'' :: rest => quoted '\'' rest
    | _ => do
      let (part, rest) ← readUntil isLineEnd true cs
      return (if afterQuote then (Text.trimLeft part.reverse).reverse else trim part, rest)

/-- Skips blanks and tells whether what follows begins a line. -/
def skipBlanks (lineStart : Bool) : List Char → Bool × List Char
  | [] => (lineStart, [])
  | c :: rest => if Text.isBlank c then skipBlanks (c = '\n') rest else (lineStart, c :: rest)

/-! ## Whole texts -/

/-- Puts a field into the table of the present section, or beside the sections. -/
def putField (section? : Option String) (key : String) (value : Config)
    (fields : List (String × Config)) : List (String × Config) :=
  match section? with
  | none => putEntry key value fields
  | some name =>
    let inner := match lookupKey? name fields with
      | some (.table inner) => inner
      | _ => []
    putEntry name (.table (putEntry key value inner)) fields

/-- Reads the rest of a text, each round taking a comment, a header or a key with its value. -/
def readEntries : (rounds : Nat) → (lineStart : Bool) → (section? : Option String) →
    List (String × Config) → List Char → Option (List (String × Config))
  | rounds, lineStart, section?, fields, cs =>
    match skipBlanks lineStart cs, rounds with
    | (_, []), _ => some fields
    | (_, _ :: _), 0 => none
    | (lineStart, c :: rest), rounds + 1 =>
      if c = ';' ∨ c = '#' then
        if lineStart then
          readEntries rounds true section? fields (rest.dropWhile (· ≠ '\n')).tail
        else none
      else if c = '[' then do
        let (name, rest) ← readUntil (· = ']') false rest
        let name := String.ofList (trim name)
        readEntries rounds false (some name) (putEntry name (.table []) fields) rest.tail
      else do
        let (key, rest) ← readUntil (fun c => c = '=' || c = ':') false (c :: rest)
        let key := trim key
        if key = [] then none
        let value := rest.tail.dropWhile fun c => Text.isBlank c && !isLineEnd c
        let (value, rest) ← readValue (value.length + 1) false value
        readEntries rounds false section?
          (putField section? (String.ofList key) (.string (String.ofList value)) fields) rest

/-- The fields of a text. -/
def read? (text : String) : Option (List (String × Config)) :=
  let cs := text.toList
  readEntries cs.length true none [] cs

end RowMap.Ini
