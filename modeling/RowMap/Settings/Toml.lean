import RowMap.Settings.Config
import RowMap.Timestamp.Text

/-!
# TOML

Reading TOML texts: keys, strings, numbers, dates, arrays and tables. A table may be defined only
once, and so may a key; `Toml.Node` keeps how each table came about, on which it depends what may
be added to it.

Reading the beginning of a text yields what was read and the rest of the text. Recursion is bounded
by a number of rounds; each takes at least one character.
-/

namespace RowMap.Toml

open Decimal (isDigit)

/-- Blanks inside a line. -/
def isBlank (c : Char) : Bool :=
  c = ' ' || c = '\t'

/-- The characters behind the blanks. -/
def skipBlanks (cs : List Char) : List Char :=
  cs.dropWhile isBlank

/-- Control characters may stand nowhere, the tab excepted. -/
def isForbidden (c : Char) : Bool :=
  (c.toNat < 32 && c ≠ '\t') || c.toNat = 127

/-- The text after a line break, if it begins with one. -/
def lineBreak? : List Char → Option (List Char)
  | '\n' :: rest => some rest
  | '\r' :: '\n' :: rest => some rest
  | _ => none

/-- Skips blanks and a comment up to the end of the line. -/
def skipToLineEnd (cs : List Char) : List Char :=
  match skipBlanks cs with
  | '#' :: rest => rest.dropWhile (!isForbidden ·)
  | rest => rest

/-- The text after the end of the line, if nothing else stands on the line. -/
def endLine? (cs : List Char) : Option (List Char) :=
  match skipToLineEnd cs with
  | [] => some []
  | rest => lineBreak? rest

/-- Skips blanks, comments and line breaks. -/
def skipLines : (rounds : Nat) → List Char → List Char
  | 0, cs => cs
  | rounds + 1, cs =>
    match lineBreak? (skipToLineEnd cs) with
    | some rest => skipLines rounds rest
    | none => skipToLineEnd cs

/-- The character of an escape sequence after the backslash. -/
def readEscape : List Char → Option (Char × List Char)
  | 'b' :: rest => some (Char.ofNat 8, rest)
  | 't' :: rest => some ('\t', rest)
  | 'n' :: rest => some ('\n', rest)
  | 'f' :: rest => some (Char.ofNat 12, rest)
  | 'r' :: rest => some ('\r', rest)
  | '"' :: rest => some ('"', rest)
  | '\\' :: rest => some ('\\', rest)
  | 'u' :: rest => Text.readCodedChar 4 rest
  | 'U' :: rest => Text.readCodedChar 8 rest
  | _ => none

/-- A string on one line up to its closing quote; `escapes` tells whether a backslash begins an
escape sequence. -/
def readLine (quote : Char) (escapes : Bool) : (rounds : Nat) → List Char →
    Option (List Char × List Char)
  | 0, _ => none
  | _, [] => none
  | rounds + 1, c :: rest =>
    if c = quote then some ([], rest)
    else if c = '\\' && escapes then do
      let (c, rest) ← readEscape rest
      let (cs, rest) ← readLine quote escapes rounds rest
      return (c :: cs, rest)
    else if isForbidden c then none
    else do
      let (cs, rest) ← readLine quote escapes rounds rest
      return (c :: cs, rest)

/-- A string over several lines up to three closing quotes; up to two quotes before them belong to
the string. A backslash at the end of a line joins it to the next text. -/
def readBlock (quote : Char) (escapes : Bool) : (rounds : Nat) → List Char →
    Option (List Char × List Char)
  | 0, _ => none
  | _, [] => none
  | rounds + 1, c :: rest =>
    let keep (c : Char) (rest : List Char) : Option (List Char × List Char) := do
      let (cs, rest) ← readBlock quote escapes rounds rest
      return (c :: cs, rest)
    if c = quote then
      let quotes := (c :: rest).takeWhile (· = quote)
      if quotes.length < 3 then keep c rest
      else if quotes.length ≤ 5 then
        some (List.replicate (quotes.length - 3) quote, (c :: rest).drop quotes.length)
      else none
    else if c = '\\' && escapes then
      match lineBreak? (skipBlanks rest) with
      | some rest => readBlock quote escapes rounds (rest.dropWhile fun c =>
          isBlank c || c = '\n' || c = '\r')
      | none => do
        let (c, rest) ← readEscape rest
        keep c rest
    else match lineBreak? (c :: rest) with
      | some rest => keep '\n' rest
      | none => if isForbidden c then none else keep c rest

/-- A string of any kind, from its opening quote on. -/
def readString (cs : List Char) : Option (String × List Char) :=
  let result :=
    match cs with
    | '"' :: '"' :: '"' :: rest => readBlock '"' true rest.length ((lineBreak? rest).getD rest)
    | '\'' :: '\'' :: '\'' :: rest =>
      readBlock '\'' false rest.length ((lineBreak? rest).getD rest)
    | '"' :: rest => readLine '"' true rest.length rest
    | '\'' :: rest => readLine '\'' false rest.length rest
    | _ => none
  result.map fun (s, rest) => (String.ofList s, rest)

/-- Characters of a key without quotes. -/
def isBare (c : Char) : Bool :=
  c.isAlphanum || c = '_' || c = '-'

/-- One part of a dotted key. -/
def readSimpleKey (cs : List Char) : Option (String × List Char) :=
  match cs with
  | '"' :: rest => (readLine '"' true rest.length rest).map fun (s, rest) => (String.ofList s, rest)
  | '\'' :: rest =>
    (readLine '\'' false rest.length rest).map fun (s, rest) => (String.ofList s, rest)
  | _ =>
    match cs.takeWhile isBare with
    | [] => none
    | name => some (String.ofList name, cs.dropWhile isBare)

/-- A key, perhaps of several parts with points between them. -/
def readKey : (rounds : Nat) → List Char → Option (List String × List Char)
  | 0, _ => none
  | rounds + 1, cs => do
    let (name, rest) ← readSimpleKey (skipBlanks cs)
    match skipBlanks rest with
    | '.' :: rest =>
      let (names, rest) ← readKey rounds rest
      return (name :: names, rest)
    | rest => return ([name], rest)

/-! ## Numbers and dates -/

/-- Digits with single underscores between them, without the underscores. -/
def plainDigits? (isDigit : Char → Bool) (cs : List Char) : Option (List Char) :=
  let digits := cs.filter (· ≠ '_')
  let parts := (String.ofList cs).splitOn "_"
  if digits.all isDigit ∧ parts.all (· ≠ "") then some digits else none

/-- Digits without a leading zero. -/
def wholeDigits? (cs : List Char) : Option (List Char) := do
  let digits ← plainDigits? isDigit cs
  if digits.head? = some '0' ∧ 1 < digits.length then none else some digits

/-- A number in a base that is a power of two. -/
def based? (base : Nat) (cs : List Char) : Option Config := do
  let digits ← plainDigits? (fun c => (Text.hexValue? c).any (· < base)) cs
  let value ← Text.basedNumber? base digits
  Config.int64? false value

/-- A decimal number with a point or an exponent. -/
def float? (negative : Bool) (cs : List Char) : Option Config := do
  let whole := cs.takeWhile fun c => isDigit c || c = '_'
  let rest := cs.drop whole.length
  let wholeDigits ← wholeDigits? whole
  let (fraction, rest) ← match rest with
    | '.' :: rest =>
      let fraction := rest.takeWhile fun c => isDigit c || c = '_'
      (plainDigits? isDigit fraction).map fun digits => ('.' :: digits, rest.drop fraction.length)
    | _ => some ([], rest)
  let exponent ← match rest with
    | [] => some []
    | mark :: rest =>
      if mark = 'e' ∨ mark = 'E' then
        let sign := if rest.head? = some '-' ∨ rest.head? = some '+' then rest.take 1 else []
        (plainDigits? isDigit (rest.drop sign.length)).map ('e' :: sign ++ ·)
      else none
  if fraction = [] ∧ exponent = [] then none
  else
    let d ← Decimal.read? (wholeDigits ++ fraction ++ exponent)
    let r := Binary64.ofDecimal negative d
    if r.isFinite then some (.float r) else none

/-- A number with an optional sign. -/
def number? (cs : List Char) : Option Config :=
  let signed : Bool := cs.head? = some '-' ∨ cs.head? = some '+'
  let negative : Bool := cs.head? = some '-'
  let unsigned := if signed then cs.tail else cs
  if unsigned = "inf".toList then some (.float (Binary64.infinity negative))
  else if unsigned = "nan".toList then some (.float .nan)
  else match unsigned, signed with
    | '0' :: 'x' :: digits, false => based? 16 digits
    | '0' :: 'o' :: digits, false => based? 8 digits
    | '0' :: 'b' :: digits, false => based? 2 digits
    | _, _ =>
      match wholeDigits? unsigned with
      | some digits => Config.int64? negative (Decimal.value digits)
      | none => float? negative unsigned

/-- A date: four, two and two digits. -/
def readDate (cs : List Char) : Option (List Char × List Char) := do
  let (year, rest) ← Timestamp.readExactly 4 cs
  let rest ← Timestamp.readChar '-' rest
  let (month, rest) ← Timestamp.readExactly 2 rest
  let rest ← Timestamp.readChar '-' rest
  let (day, rest) ← Timestamp.readExactly 2 rest
  let date ← Date.ofFields? year month day
  return (date.text, rest)

/-- A time of day, perhaps with a fraction, which is written without trailing zeros. -/
def readClock (cs : List Char) : Option (List Char × List Char) := do
  let (hour, rest) ← Timestamp.readExactly 2 cs
  let rest ← Timestamp.readChar ':' rest
  let (minute, rest) ← Timestamp.readExactly 2 rest
  let rest ← Timestamp.readChar ':' rest
  let (second, rest) ← Timestamp.readExactly 2 rest
  let (fraction, rest) ← match rest with
    | '.' :: rest =>
      match rest.takeWhile isDigit with
      | [] => none
      | digits =>
        let kept := ((digits.take 9).reverse.dropWhile (· = '0')).reverse
        some (if kept = [] then [] else '.' :: kept, rest.drop digits.length)
    | _ => some ([], rest)
  if hour < 24 ∧ minute < 60 ∧ second ≤ 60 then
    let two := Decimal.padded 2
    some (two hour ++ ':' :: two minute ++ ':' :: two second ++ fraction, rest)
  else none

/-- The offset of a time of day from universal time. -/
def readOffset (cs : List Char) : Option (List Char × List Char) :=
  match cs with
  | [] => some ([], [])
  | 'Z' :: rest => some (['Z'], rest)
  | 'z' :: rest => some (['Z'], rest)
  | sign :: rest => do
    if sign ≠ '+' ∧ sign ≠ '-' then none
    let (hours, rest) ← Timestamp.readExactly 2 rest
    let rest ← Timestamp.readChar ':' rest
    let (minutes, rest) ← Timestamp.readExactly 2 rest
    if hours < 24 ∧ minutes < 60 then
      some (sign :: Decimal.padded 2 hours ++ ':' :: Decimal.padded 2 minutes, rest)
    else none

/-- A date, a time of day, or both with an optional offset, in their usual form. -/
def moment? (cs : List Char) : Option Config := do
  let text ← match readDate cs with
    | some (date, []) => some date
    | some (date, separator :: rest) =>
      if separator = 'T' ∨ separator = 't' ∨ separator = ' ' then do
        let (clock, rest) ← readClock rest
        let (offset, rest) ← readOffset rest
        if rest = [] then some (date ++ 'T' :: clock ++ offset) else none
      else none
    | none => do
      let (clock, rest) ← readClock cs
      if rest = [] then some clock else none
  return .string (String.ofList text)

/-- Characters of a number, a date or a word. -/
def isScalarChar (c : Char) : Bool :=
  c.isAlphanum || c = '_' || c = '-' || c = '+' || c = '.' || c = ':'

/-- A truth value, a number or a date. A blank may stand between a date and a time of day. -/
def readScalar (cs : List Char) : Option (Config × List Char) := do
  let first := cs.takeWhile isScalarChar
  let rest := cs.dropWhile isScalarChar
  let second := rest.tail.takeWhile isScalarChar
  if (readDate first).any (·.2 = []) && rest.head? = some ' ' && second.head?.any isDigit then
    let moment ← moment? (first ++ ' ' :: second)
    return (moment, rest.tail.drop second.length)
  if first = "true".toList then return (.boolean true, rest)
  if first = "false".toList then return (.boolean false, rest)
  let value ← (number? first).or (moment? first)
  return (value, rest)

/-! ## Tables -/

/-- How a table came about: on the way to another one, by a header, or by a key with points. -/
inductive Origin where
  | implicit
  | header
  | dotted
  deriving DecidableEq

/-- A part of a text that is still read: a value, a table, or a list of tables, the last one
first. -/
inductive Node where
  | leaf (value : Config)
  | table (origin : Origin) (fields : List (String × Node))
  | tables (elements : List (List (String × Node)))

namespace Node

/-- Changes the table that a path leads to. Tables on the way that do not exist come about as
`origin` says; a key with points must not enter a table that a header has defined. -/
def within (origin : Origin) (change : List (String × Node) → Option (List (String × Node))) :
    (path : List String) → List (String × Node) → Option (List (String × Node))
  | [], fields => change fields
  | name :: path, fields =>
    match lookupKey? name fields with
    | none =>
      (within origin change path []).map fun inner => putEntry name (.table origin inner) fields
    | some (.table found inner) =>
      if origin = .dotted ∧ found = .header then none
      else (within origin change path inner).map fun inner =>
        putEntry name (.table found inner) fields
    | some (.tables (last :: earlier)) =>
      if origin = .dotted then none
      else (within origin change path last).map fun last =>
        putEntry name (.tables (last :: earlier)) fields
    | some _ => none

/-- Defines a key that must be new. -/
def define (key : String) (value : Node) (fields : List (String × Node)) :
    Option (List (String × Node)) :=
  if (lookupKey? key fields).isSome then none else some (putEntry key value fields)

/-- Opens the table of a header. -/
def openTable (key : String) (fields : List (String × Node)) : Option (List (String × Node)) :=
  match lookupKey? key fields with
  | none => some (putEntry key (.table .header []) fields)
  | some (.table .implicit inner) => some (putEntry key (.table .header inner) fields)
  | some _ => none

/-- Adds a table to a list of tables. -/
def openElement (key : String) (fields : List (String × Node)) : Option (List (String × Node)) :=
  match lookupKey? key fields with
  | none => some (putEntry key (.tables [[]]) fields)
  | some (.tables elements) => some (putEntry key (.tables ([] :: elements)) fields)
  | some _ => none

/-- Changes the table in which the last part of a path stands. -/
def atParent (origin : Origin)
    (change : String → List (String × Node) → Option (List (String × Node)))
    (path : List String) (fields : List (String × Node)) : Option (List (String × Node)) :=
  match path.reverse with
  | [] => none
  | last :: parents => within origin (change last) parents.reverse fields

mutual

def config : Node → Config
  | .leaf value => value
  | .table _ fields => .table (configs fields)
  | .tables elements => .array (elementConfigs elements).reverse

def configs : List (String × Node) → List (String × Config)
  | [] => []
  | (key, node) :: rest => (key, node.config) :: configs rest

def elementConfigs : List (List (String × Node)) → List Config
  | [] => []
  | fields :: rest => .table (configs fields) :: elementConfigs rest

end

end Node

mutual

/-- A value of any kind, with rounds for what is nested in it. -/
def readValue : (rounds : Nat) → List Char → Option (Config × List Char)
  | 0, _ => none
  | _, [] => none
  | rounds + 1, c :: rest =>
    if c = '"' ∨ c = '\'' then (readString (c :: rest)).map fun (s, rest) => (.string s, rest)
    else if c = '[' then
      (readItems rounds (skipLines rest.length rest)).map fun (items, rest) => (.array items, rest)
    else if c = Char.ofNat 123 then do
      let inner := skipBlanks rest
      if inner.head? = some (Char.ofNat 125) then return (.table [], inner.tail)
      let (fields, rest) ← readInline rounds [] rest
      return (.table (Node.configs fields), rest)
    else readScalar (c :: rest)

/-- The items of an array up to its closing bracket. -/
def readItems : (rounds : Nat) → List Char → Option (List Config × List Char)
  | 0, _ => none
  | rounds + 1, cs =>
    match cs with
    | ']' :: rest => some ([], rest)
    | _ => do
      let (item, rest) ← readValue rounds cs
      match skipLines rest.length rest with
      | ',' :: rest =>
        let (items, rest) ← readItems rounds (skipLines rest.length rest)
        return (item :: items, rest)
      | ']' :: rest => return ([item], rest)
      | _ => none

/-- The fields of an inline table up to its closing brace. -/
def readInline : (rounds : Nat) → List (String × Node) → List Char →
    Option (List (String × Node) × List Char)
  | 0, _, _ => none
  | rounds + 1, fields, cs => do
    let (path, rest) ← readKey cs.length cs
    match skipBlanks rest with
    | '=' :: rest =>
      let (value, rest) ← readValue rounds (skipBlanks rest)
      let fields ← Node.atParent .dotted (fun key => Node.define key (.leaf value)) path fields
      match skipBlanks rest with
      | [] => none
      | c :: rest =>
        if c = ',' then readInline rounds fields rest
        else if c = Char.ofNat 125 then some (fields, rest)
        else none
    | _ => none

end

/-! ## Whole texts -/

/-- Reads one line or a value of several lines: a header, which changes the table that the next
lines belong to, or a key with its value. -/
def readEntry (current : List String) (root : List (String × Node)) (cs : List Char) :
    Option (List String × List (String × Node) × List Char) :=
  match cs with
  | '[' :: '[' :: rest => do
    let (path, rest) ← readKey rest.length rest
    match rest with
    | ']' :: ']' :: rest =>
      let root ← Node.atParent .implicit Node.openElement path root
      return (path, root, ← endLine? rest)
    | _ => none
  | '[' :: rest => do
    let (path, rest) ← readKey rest.length rest
    match rest with
    | ']' :: rest =>
      let root ← Node.atParent .implicit Node.openTable path root
      return (path, root, ← endLine? rest)
    | _ => none
  | _ => do
    let (path, rest) ← readKey cs.length cs
    match rest with
    | '=' :: rest =>
      let (value, rest) ← readValue (2 * rest.length + 2) (skipBlanks rest)
      let define := Node.atParent .dotted (fun key => Node.define key (.leaf value)) path
      let root ← Node.within .implicit define current root
      return (current, root, ← endLine? rest)
    | _ => none

/-- Entries and headers of tables, line by line. -/
def readEntries : (rounds : Nat) → (current : List String) → List (String × Node) → List Char →
    Option (List (String × Node))
  | rounds, current, root, cs =>
    match skipLines cs.length cs, rounds with
    | [], _ => some root
    | _ :: _, 0 => none
    | c :: rest, rounds + 1 => do
      let (current, root, rest) ← readEntry current root (c :: rest)
      readEntries rounds current root rest

/-- The fields of a text. -/
def read? (text : String) : Option (List (String × Config)) :=
  let cs := text.toList
  (readEntries cs.length [] [] cs).map Node.configs

end RowMap.Toml
