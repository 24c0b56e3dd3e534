import RowMap.Settings.Config
import RowMap.Text.Blank

/-!
# YAML

Reading the common part of YAML: mappings and sequences by indentation, collections in brackets and
braces, and plain and quoted scalars on one line. There are no anchors, tags or block scalars, and a
text holds one document.

A text is first cut into lines with their indentation. A key must not occur twice in one mapping.
Recursion is bounded by a number of rounds; each takes at least one character or one line.
-/

namespace RowMap.Yaml

/-- The number that a plain scalar denotes, if it denotes one. -/
def number? (cs : List Char) : Option Config :=
  let based := match cs with
    | '0' :: 'x' :: digits => Text.basedNumber? 16 digits
    | '0' :: 'o' :: digits => Text.basedNumber? 8 digits
    | _ => none
  let real := if cs.any Decimal.isDigit then (Binary64.read? cs).map Config.float else none
  let integer := (based.map Int.ofNat).or (Decimal.signed? cs)
  (integer.bind fun n => Config.int64? (n < 0) n.natAbs).or real

/-- The words for numbers that are not finite, which have no value here. -/
def unusable : List String :=
  [".inf", ".Inf", ".INF", "+.inf", "+.Inf", "+.INF", "-.inf", "-.Inf", "-.INF", ".nan", ".NaN",
    ".NAN"]

/-- The value of a plain scalar. -/
def plain? (cs : List Char) : Option Config :=
  let text := String.ofList cs
  if text ∈ ["", "~", "null"] then some .nothing
  else if text = "true" then some (.boolean true)
  else if text = "false" then some (.boolean false)
  else if text ∈ unusable then none
  else some ((number? cs).getD (.string text))

/-- The character of an escape sequence after the backslash, in double quotes. -/
def readEscape : List Char → Option (Char × List Char)
  | [] => none
  | c :: rest =>
    if c = 'x' then Text.readCodedChar 2 rest
    else if c = 'u' then Text.readCodedChar 4 rest
    else if c = 'U' then Text.readCodedChar 8 rest
    else
      let codes := [('0', 0), ('a', 7), ('b', 8), ('t', 9), ('n', 10), ('v', 11), ('f', 12),
        ('r', 13), ('e', 27), (' ', 32), ('"', 34), ('/', 47), ('\\', 92), ('N', 0x85),
        ('_', 0xa0), ('L', 0x2028), ('P', 0x2029)]
      (codes.lookup c).map fun code => (Char.ofNat code, rest)

/-- A string up to its closing double quote. -/
def readDouble : (rounds : Nat) → List Char → Option (List Char × List Char)
  | 0, _ => none
  | _, [] => none
  | rounds + 1, c :: rest =>
    if c = '"' then some ([], rest)
    else if c = '\n' then none
    else do
      let (c, rest) ← if c = '\\' then readEscape rest else some (c, rest)
      let (cs, rest) ← readDouble rounds rest
      return (c :: cs, rest)

/-- A string up to its closing single quote; two of them stand for one. -/
def readSingle : List Char → Option (List Char × List Char)
  | [] => none
  | '\'' :: '\'' :: rest => (readSingle rest).map fun (cs, rest) => ('\'' :: cs, rest)
  | c :: rest =>
    if c = '\'' then some ([], rest)
    else if c = '\n' then none
    else (readSingle rest).map fun (cs, rest) => (c :: cs, rest)

/-- A quoted string from its opening quote on; `none` also if there is no quote. -/
def readQuoted : List Char → Option (List Char × List Char)
  | '"' :: rest => readDouble (rest.length + 1) rest
  | '\'' :: rest => readSingle rest
  | _ => none

/-! ## Blanks, comments and keys -/

/-- Blanks inside a line. -/
def isBlank (c : Char) : Bool :=
  c = ' ' || c = '\t'

/-- The characters behind the blanks. -/
def skipBlanks (cs : List Char) : List Char :=
  cs.dropWhile isBlank

/-- The characters without the blanks at the end. -/
def trimRight (cs : List Char) : List Char :=
  (cs.reverse.dropWhile isBlank).reverse

/-- Whether nothing but blanks and a comment is left of a line. -/
def isLineEnd (cs : List Char) : Bool :=
  match skipBlanks cs with
  | [] => true
  | c :: _ => c = '#' && (cs = [] || cs.head?.any isBlank)

/-- The text before a comment, which begins after a blank. -/
def beforeComment : List Char → List Char
  | [] => []
  | c :: rest =>
    if isBlank c && rest.head? = some '#' then [] else c :: beforeComment rest

/-- Characters with which no plain scalar begins. -/
def isIndicator (c : Char) : Bool :=
  c ∈ [',', '[', ']', Char.ofNat 123, Char.ofNat 125, '#', '&', '*', '!', '|', '>', '\'', '"', '%',
    '@', Char.ofNat 96]

/-- Whether a plain scalar begins here: with a character that is no indicator, or with a hyphen, a
question mark or a colon in front of more text. -/
def beginsPlain : List Char → Bool
  | [] => false
  | c :: rest =>
    if c = '-' ∨ c = '?' ∨ c = ':' then !(rest = [] || rest.head?.any isBlank) else !isIndicator c

/-- The text before the colon that ends a key, and the text after it. -/
def splitKey : List Char → Option (List Char × List Char)
  | [] => none
  | c :: rest =>
    if c = ':' && (rest = [] || rest.head?.any fun c => isBlank c || c = '\n') then some ([], rest)
    else if isBlank c && rest.head? = some '#' then none
    else (splitKey rest).map fun (key, rest) => (c :: key, rest)

/-- A key as text; a key that is null has none. -/
def keyText? : Config → Option String
  | .nothing => none
  | value => value.asText?

/-- The key at the beginning of a line, and what follows its colon. -/
def readKey (cs : List Char) : Option (String × List Char) :=
  match readQuoted cs with
  | some (key, rest) =>
    match skipBlanks rest with
    | ':' :: rest =>
      if rest = [] || rest.head?.any isBlank then some (String.ofList key, rest) else none
    | _ => none
  | none =>
    if beginsPlain cs then do
      let (key, rest) ← splitKey cs
      let key ← (plain? (trimRight key)).bind keyText?
      return (key, rest)
    else none

/-! ## Collections in brackets and braces -/

/-- Skips blanks, line breaks and comments. -/
def skipSpace (inComment : Bool) : List Char → List Char
  | [] => []
  | c :: rest =>
    if inComment then skipSpace (c ≠ '\n') rest
    else if isBlank c || c = '\n' then
      skipSpace (rest.head? = some '#') rest
    else c :: rest

/-- Characters that end a scalar inside brackets. -/
def isFlowEnd (c : Char) : Bool :=
  c = ',' || c = '[' || c = ']' || c = Char.ofNat 123 || c = Char.ofNat 125 || c = '\n'

/-- A plain scalar inside of a collection. -/
def takePlain : List Char → List Char × List Char
  | [] => ([], [])
  | c :: rest =>
    if isFlowEnd c || (isBlank c && rest.head? = some '#')
      || (c = ':' && (rest = [] || rest.head?.any fun c => isBlank c || isFlowEnd c)) then
      ([], c :: rest)
    else
      let (cs, rest) := takePlain rest
      (c :: cs, rest)

/-- A scalar inside of a collection. -/
def readFlowScalar (cs : List Char) : Option (Config × List Char) :=
  match readQuoted cs with
  | some (text, rest) => some (.string (String.ofList text), rest)
  | none =>
    if beginsPlain cs then
      let (text, rest) := takePlain cs
      (plain? (trimRight text)).map (·, rest)
    else none

mutual

/-- A value inside of a collection, or a collection. -/
def readFlow : (rounds : Nat) → List Char → Option (Config × List Char)
  | 0, _ => none
  | rounds + 1, cs =>
    if cs.head? = some '[' then
      (readItems rounds (skipSpace false cs.tail)).map fun (items, rest) => (.array items, rest)
    else if cs.head? = some (Char.ofNat 123) then
      (readFields rounds [] (skipSpace false cs.tail)).map fun (fields, rest) =>
        (.table fields, rest)
    else readFlowScalar cs

/-- The items up to the closing bracket. -/
def readItems : (rounds : Nat) → List Char → Option (List Config × List Char)
  | 0, _ => none
  | rounds + 1, cs =>
    if cs.head? = some ']' then some ([], cs.tail)
    else do
      let (item, rest) ← readFlow rounds cs
      match skipSpace false rest with
      | ',' :: rest =>
        let (items, rest) ← readItems rounds (skipSpace false rest)
        return (item :: items, rest)
      | ']' :: rest => return ([item], rest)
      | _ => none

/-- The fields up to the closing brace. -/
def readFields : (rounds : Nat) → List (String × Config) → List Char →
    Option (List (String × Config) × List Char)
  | 0, _, _ => none
  | rounds + 1, fields, cs =>
    if cs.head? = some (Char.ofNat 125) then some (fields, cs.tail)
    else do
      let (key, rest) ← readFlowScalar cs
      let key ← keyText? key
      let rest := skipSpace false rest
      let (value, rest) ←
        if rest.head? = some ':' then
          let rest := skipSpace false rest.tail
          if rest.head?.any fun c => c = ',' || c = Char.ofNat 125 then some (.nothing, rest)
          else readFlow rounds rest
        else some (.nothing, rest)
      if (lookupKey? key fields).isSome then none
      let fields := fields ++ [(key, value)]
      let rest := skipSpace false rest
      if rest.head? = some ',' then readFields rounds fields (skipSpace false rest.tail)
      else if rest.head? = some (Char.ofNat 125) then return (fields, rest.tail)
      else none

end

/-! ## Collections by indentation -/

/-- A line that is neither blank nor a comment. -/
structure Line where
  indentation : Nat
  content : List Char

/-- A value that begins and ends on one line. -/
def readInline (cs : List Char) : Option Config :=
  let cs := skipBlanks cs
  if cs.head?.any (· ∈ ['[', Char.ofNat 123, '"', '\'']) then do
    let (value, rest) ← readFlow (2 * cs.length) cs
    if isLineEnd rest then some value else none
  else if beginsPlain cs ∧ (splitKey cs).isNone then plain? (trimRight (beforeComment cs))
  else none

/-- The text after the hyphen of an item, if the line begins one. -/
def afterHyphen? : List Char → Option (List Char)
  | '-' :: rest => if rest = [] || rest.head?.any isBlank then some rest else none
  | _ => none

mutual

/-- The value that the next lines hold. -/
def readBlock : (rounds : Nat) → List Line → Option (Config × List Line)
  | 0, _ => none
  | _, [] => none
  | rounds + 1, line :: rest =>
    if (afterHyphen? line.content).isSome then
      (readSequence rounds line.indentation (line :: rest)).map fun (items, rest) =>
        (.array items, rest)
    else if (readKey line.content).isSome then
      (readMapping rounds line.indentation [] (line :: rest)).map fun (fields, rest) =>
        (.table fields, rest)
    else (readInline line.content).map (·, rest)

/-- The items at an indentation. -/
def readSequence : (rounds indentation : Nat) → List Line → Option (List Config × List Line)
  | 0, _, _ => none
  | _, _, [] => some ([], [])
  | rounds + 1, indentation, line :: rest =>
    if line.indentation < indentation then some ([], line :: rest)
    else if indentation < line.indentation then none
    else match afterHyphen? line.content with
      | none => some ([], line :: rest)
      | some after => do
        let (item, rest) ←
          if isLineEnd after then readNested rounds (indentation + 1) rest
          else
            let content := skipBlanks after
            let offset := line.content.length - content.length
            readBlock rounds (⟨indentation + offset, content⟩ :: rest)
        let (items, rest) ← readSequence rounds indentation rest
        return (item :: items, rest)

/-- The fields at an indentation. -/
def readMapping : (rounds indentation : Nat) → List (String × Config) → List Line →
    Option (List (String × Config) × List Line)
  | 0, _, _, _ => none
  | _, _, fields, [] => some (fields, [])
  | rounds + 1, indentation, fields, line :: rest =>
    if line.indentation < indentation then some (fields, line :: rest)
    else if indentation < line.indentation then none
    else do
      let (key, after) ← readKey line.content
      let (value, rest) ←
        if !isLineEnd after then (readInline after).map (·, rest)
        else if rest.head?.any fun next =>
            next.indentation = indentation && (afterHyphen? next.content).isSome then
          readBlock rounds rest
        else readNested rounds (indentation + 1) rest
      if (lookupKey? key fields).isSome then none
      readMapping rounds indentation (fields ++ [(key, value)]) rest

/-- The value on lines that are indented at least so far; nothing if there are none. -/
def readNested : (rounds least : Nat) → List Line → Option (Config × List Line)
  | 0, _, _ => none
  | rounds + 1, least, lines =>
    if lines.head?.any (least ≤ ·.indentation) then readBlock rounds lines
    else some (.nothing, lines)

end

/-- The lines of a text without line breaks. -/
def splitLines (text : String) : List (List Char) :=
  (text.splitOn "\n").map fun line =>
    let cs := line.toList
    if cs.getLast? = some '\r' then cs.dropLast else cs

/-- A line with its indentation, which must not contain tabs; `none` inside for a line without
content. -/
def line? (cs : List Char) : Option (Option Line) :=
  let content := cs.dropWhile (· = ' ')
  if skipBlanks content = [] ∨ (skipBlanks content).head? = some '#' then some none
  else if content.head? = some '\t' then none
  else some (some ⟨cs.length - content.length, content⟩)

def startMark : List Char := "---".toList

def endMark : List Char := "...".toList

/-- The value of a document. -/
def readDocument (lines : List (List Char)) : Option Config := do
  let content := (← lines.mapM line?).filterMap id
  match content with
  | [] => return .table []
  | first :: _ =>
    if first.content.head?.any (· ∈ ['[', Char.ofNat 123]) then
      let text := lines.flatMap (· ++ ['\n'])
      let (value, rest) ← readFlow (2 * text.length) (skipSpace (text.head? = some '#') text)
      if skipSpace false rest = [] then some value else none
    else
      let (value, rest) ← readBlock (4 * (lines.flatMap id).length) content
      if rest.isEmpty then some value else none

/-- The fields of a text. Marks for the beginning and the end of its document may stand around it.
-/
def read? (text : String) : Option (List (String × Config)) := do
  let lines := splitLines text
  let isRemark (cs : List Char) : Bool := isLineEnd cs || cs.head? = some '#'
  let remarks := lines.takeWhile isRemark
  let body := lines.drop remarks.length
  let body := if body.head?.any fun cs => trimRight cs = startMark then body.tail else body
  let inside := body.takeWhile fun cs => trimRight cs ≠ endMark
  let after := (body.drop inside.length).tail
  if inside.any (fun cs => cs.take 3 = startMark) || !after.all isRemark then none
  match ← readDocument inside with
  | .table fields => some fields
  | _ => none

end RowMap.Yaml
