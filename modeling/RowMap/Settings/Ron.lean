import RowMap.Settings.Config
import RowMap.Text.Category

/-!
# RON

Reading RON: structures `(name: value)`, maps, sequences, tuples, optional values, strings,
characters and numbers. The name in front of a structure is ignored, and so is that of a value
without fields.

Reading the beginning of a text yields what was read and the rest of the text. Recursion is bounded
by a number of rounds; each takes at least one character.
-/

namespace RowMap.Ron

/-- The text after the end of a comment that is nested `depth` times. -/
def afterComment? (depth : Nat) : List Char → Option (List Char)
  | [] => none
  | '/' :: '*' :: rest => afterComment? (depth + 1) rest
  | '*' :: '/' :: rest => if depth = 0 then some rest else afterComment? (depth - 1) rest
  | _ :: rest => afterComment? depth rest

/-- Skips blanks and comments. -/
def skipSpace : (rounds : Nat) → List Char → List Char
  | 0, cs => cs
  | rounds + 1, cs =>
    match cs.dropWhile Char.isWhitespace with
    | '/' :: '/' :: rest => skipSpace rounds (rest.dropWhile (· ≠ '\n'))
    | '/' :: '*' :: rest =>
      match afterComment? 0 rest with
      | some rest => skipSpace rounds rest
      | none => '/' :: '*' :: rest
    | rest => rest

def skip (cs : List Char) : List Char :=
  skipSpace (cs.length + 1) cs

/-- The character of an escape sequence after the backslash. -/
def readEscape : List Char → Option (Char × List Char)
  | [] => none
  | 'x' :: a :: b :: rest => (Text.codedChar? [a, b]).map (·, rest)
  | c :: rest =>
    if c = 'u' then
      let digits := rest.tail.takeWhile (· ≠ Char.ofNat 125)
      match rest.tail.dropWhile (· ≠ Char.ofNat 125) with
      | _ :: after =>
        if rest.head? = some (Char.ofNat 123) then (Text.codedChar? digits).map (·, after) else none
      | [] => none
    else
      let codes := [('"', 34), ('\'', 39), ('\\', 92), ('b', 8), ('f', 12), ('n', 10), ('r', 13),
        ('t', 9), ('0', 0)]
      (codes.lookup c).map fun code => (Char.ofNat code, rest)

/-- The characters of a string up to its closing quote. -/
def readString (quote : Char) : (rounds : Nat) → List Char → Option (List Char × List Char)
  | 0, _ => none
  | _, [] => none
  | rounds + 1, c :: rest =>
    if c = quote then some ([], rest)
    else do
      let (c, rest) ← if c = '\\' then readEscape rest else some (c, rest)
      let (cs, rest) ← readString quote rounds rest
      return (c :: cs, rest)

/-- The characters of a string without escape sequences up to its closing mark. -/
def readRaw (close : List Char) : List Char → Option (List Char × List Char)
  | [] => none
  | c :: rest =>
    if (c :: rest).take close.length = close then some ([], (c :: rest).drop close.length)
    else (readRaw close rest).map fun (cs, rest) => (c :: cs, rest)

/-- A string or a character in quotes. -/
def readQuoted : List Char → Option (String × List Char)
  | [] => none
  | c :: rest =>
    let plain := if c = '"' ∨ c = '\'' then readString c (rest.length + 1) rest else none
    let hashes := rest.takeWhile (· = '#')
    let opened := rest.drop hashes.length
    let raw :=
      if c = 'r' ∧ opened.head? = some '"' then readRaw ('"' :: hashes) opened.tail else none
    (plain.or raw).bind fun (cs, rest) =>
      if c = '\'' ∧ cs.length ≠ 1 then none else some (String.ofList cs, rest)

/-! ## Numbers and names -/

/-- Digits of a base; underscores between them are ignored. -/
def based? (base : Nat) (cs : List Char) : Option Nat :=
  if cs.head? = some '_' then none else Text.basedNumber? base (cs.filter (· ≠ '_'))

/-- A number: an integer that fits 64 bits, or a double. -/
def number? (cs : List Char) : Option Config := do
  let negative : Bool := cs.head? = some '-'
  let unsigned := if negative || cs.head? = some '+' then cs.tail else cs
  let magnitude? := match unsigned with
    | '0' :: 'x' :: digits => based? 16 digits
    | '0' :: 'o' :: digits => based? 8 digits
    | '0' :: 'b' :: digits => based? 2 digits
    | _ => based? 10 unsigned
  match magnitude? with
  | some magnitude =>
    let n : Int := if negative then -(magnitude : Int) else magnitude
    if FitsWord n then some (.integer n) else none
  | none =>
    if unsigned = "inf".toList then some (.float (Binary64.infinity negative))
    else if unsigned = "NaN".toList then some (.float .nan)
    else
      let d ← Decimal.read? (unsigned.filter (· ≠ '_'))
      return .float (Binary64.ofDecimal negative d)

/-- Characters of a number. -/
def isNumberChar (c : Char) : Bool :=
  c.isAlphanum || c = '_' || c = '.' || c = '+' || c = '-'

/-- Characters that a name can begin with. -/
def isNameStart (c : Char) : Bool :=
  c = '_' || Text.isLetter c

/-- Characters inside a name. -/
def isNameChar (c : Char) : Bool :=
  isNameStart c || Text.isOf ["Mn", "Mc", "Nd", "Pc"] c

/-- A name, which may be marked by `r#`. -/
def readName (cs : List Char) : Option (String × List Char) :=
  let cs := match cs with
    | 'r' :: '#' :: rest => rest
    | _ => cs
  if cs.head?.any isNameStart then
    some (String.ofList (cs.takeWhile isNameChar), cs.dropWhile isNameChar)
  else none

/-- Whether a structure with named fields begins after an opening parenthesis. -/
def beginsFields (cs : List Char) : Bool :=
  match readName cs with
  | some (_, rest) =>
    match skip rest with
    | ':' :: rest => rest.head? ≠ some ':'
    | _ => false
  | none => false

/-! ## Values -/

mutual

/-- A value of any kind, with rounds for what is nested in it. -/
def readValue : (rounds : Nat) → List Char → Option (Config × List Char)
  | 0, _ => none
  | rounds + 1, cs =>
    match readQuoted cs with
    | some (text, rest) => some (.string text, rest)
    | none =>
      if cs.head? = some '[' then
        (readItems rounds ']' (skip cs.tail)).map fun (items, rest) => (.array items, rest)
      else if cs.head? = some (Char.ofNat 123) then
        (readFields rounds false (Char.ofNat 125) (skip cs.tail)).map fun (fields, rest) =>
          (.table fields, rest)
      else if cs.head? = some '(' then readParenthesized rounds (skip cs.tail)
      else match number? (cs.takeWhile isNumberChar) with
        | some n => some (n, cs.dropWhile isNumberChar)
        | none => do
          let (name, rest) ← readName cs
          let after := skip rest
          if name = "true" then return (.boolean true, rest)
          if name = "false" then return (.boolean false, rest)
          if after.head? = some '(' then
            let inner := skip after.tail
            if name = "Some" then
              match ← readItems rounds ')' inner with
              | ([value], rest) => return (value, rest)
              | _ => none
            else readParenthesized rounds inner
          else return (.nothing, rest)

/-- A structure or a tuple after its opening parenthesis; an empty one is nothing. -/
def readParenthesized : (rounds : Nat) → List Char → Option (Config × List Char)
  | 0, _ => none
  | rounds + 1, cs =>
    if cs.head? = some ')' then some (.nothing, cs.tail)
    else if beginsFields cs then
      (readFields rounds true ')' cs).map fun (fields, rest) => (.table fields, rest)
    else (readItems rounds ')' cs).map fun (items, rest) => (.array items, rest)

/-- Items up to a closing mark. -/
def readItems : (rounds : Nat) → (close : Char) → List Char → Option (List Config × List Char)
  | 0, _, _ => none
  | rounds + 1, close, cs =>
    if cs.head? = some close then some ([], cs.tail)
    else do
      let (item, rest) ← readValue rounds cs
      let rest := skip rest
      if rest.head? = some ',' then
        let (items, rest) ← readItems rounds close (skip rest.tail)
        return (item :: items, rest)
      else if rest.head? = some close then return ([item], rest.tail)
      else none

/-- Fields up to a closing mark; their keys are names, or values that have a text. -/
def readFields : (rounds : Nat) → (named : Bool) → (close : Char) → List Char →
    Option (List (String × Config) × List Char)
  | 0, _, _, _ => none
  | rounds + 1, named, close, cs =>
    if cs.head? = some close then some ([], cs.tail)
    else do
      let (key, rest) ← if named then readName cs else
        (readValue rounds cs).bind fun (key, rest) => key.asText?.map (·, rest)
      match skip rest with
      | ':' :: rest =>
        let (value, rest) ← readValue rounds (skip rest)
        let rest := skip rest
        if rest.head? = some ',' then
          let (fields, rest) ← readFields rounds named close (skip rest.tail)
          return ((key, value) :: fields, rest)
        else if rest.head? = some close then return ([(key, value)], rest.tail)
        else none
      | _ => none

end

/-- The fields of a text that holds a structure or a map. -/
def read? (text : String) : Option (List (String × Config)) := do
  let cs := text.toList
  match ← readValue (3 * cs.length + 1) (skip cs) with
  | (.table fields, rest) => if skip rest = [] then some fields else none
  | _ => none

end RowMap.Ron
