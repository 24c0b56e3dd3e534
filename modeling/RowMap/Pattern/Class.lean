import RowMap.Pattern.Basic
import RowMap.Text.Category

/-!
# Character classes of patterns

A class is a predicate on characters together with two measures of the expression that denotes it:
how deep it is nested, and about how large an automaton for it is. Classes are combined as sets;
`CharClass.named?` looks up the classes that have a name.
-/

namespace RowMap.Pattern

/-- A set of characters, with the depth and the weight that count against the limits. -/
structure CharClass where
  accepts : Char → Bool
  depth : Nat
  weight : Nat

namespace CharClass

/-- Classes that reach beyond ASCII need some states for the bytes of a character. -/
def wideWeight : Nat := 400

/-- No character. -/
def none : CharClass :=
  ⟨fun _ => false, 0, 32⟩

/-- One character. -/
def single (c : Char) : CharClass :=
  ⟨(· = c), 0, 32 * c.utf8Size⟩

/-- All characters between two. -/
def range (low high : Char) : CharClass :=
  ⟨fun c => low ≤ c && c ≤ high, 0, if high.toNat < 128 then 48 else wideWeight⟩

/-- The characters of both classes. -/
def union (a b : CharClass) : CharClass :=
  ⟨fun c => a.accepts c || b.accepts c, max a.depth b.depth, a.weight + b.weight⟩

/-- The characters that both classes have. -/
def intersection (a b : CharClass) : CharClass :=
  ⟨fun c => a.accepts c && b.accepts c, 1 + max a.depth b.depth, max a.weight b.weight⟩

/-- The characters that only the first class has. -/
def difference (a b : CharClass) : CharClass :=
  ⟨fun c => a.accepts c && !b.accepts c, 1 + max a.depth b.depth, max a.weight b.weight⟩

/-- The characters that exactly one class has. -/
def symmetricDifference (a b : CharClass) : CharClass :=
  ⟨fun c => a.accepts c != b.accepts c, 1 + max a.depth b.depth, a.weight + b.weight⟩

/-- All other characters. -/
def complement (a : CharClass) : CharClass :=
  ⟨fun c => !a.accepts c, a.depth, a.weight + wideWeight⟩

/-- The complement if asked for. -/
def negatedIf (negated : Bool) (a : CharClass) : CharClass :=
  if negated then a.complement else a

/-- The class closed under case; `wide` tells whether beyond ASCII too. -/
def ignoringCase (wide : Bool) (a : CharClass) : CharClass :=
  let variants (c : Char) : List Char :=
    if wide then Text.caseVariants c else [c, c.toLower, c.toUpper]
  { a with accepts := fun c => (variants c).any a.accepts }

/-- Digits; `wide` admits those of all scripts. -/
def digit (wide : Bool) : CharClass :=
  if wide then ⟨Text.isDecimalDigit, 0, 4000⟩ else ⟨Decimal.isDigit, 0, 48⟩

/-- Blanks and line ends. -/
def blank (wide : Bool) : CharClass :=
  if wide then ⟨Text.isBlank, 0, wideWeight⟩
  else ⟨fun c => c = ' ' || (9 ≤ c.toNat && c.toNat ≤ 13), 0, 48⟩

/-- Letters, digits and underscores. -/
def word (wide : Bool) : CharClass :=
  if wide then ⟨Text.isWord, 0, 60000⟩ else ⟨Text.isAsciiWord, 0, 48⟩

/-! ## Classes with a name -/

/-- The ASCII classes that are written inside of brackets. -/
def ascii? (name : String) : Option CharClass :=
  let make (accepts : Char → Bool) : Option CharClass :=
    some ⟨fun c => c.toNat < 128 && accepts c, 0, 48⟩
  match name with
  | "alnum" => make Char.isAlphanum
  | "alpha" => make Char.isAlpha
  | "ascii" => make fun _ => true
  | "blank" => make fun c => c = ' ' || c = '\t'
  | "cntrl" => make fun c => c.toNat < 32 || c.toNat = 127
  | "digit" => make Decimal.isDigit
  | "graph" => make fun c => 33 ≤ c.toNat && c.toNat ≤ 126
  | "lower" => make Char.isLower
  | "print" => make fun c => 32 ≤ c.toNat && c.toNat ≤ 126
  | "punct" => make fun c => 33 ≤ c.toNat && c.toNat ≤ 126 && !c.isAlphanum
  | "space" => make fun c => c = ' ' || (9 ≤ c.toNat && c.toNat ≤ 13)
  | "upper" => make Char.isUpper
  | "word" => make Text.isAsciiWord
  | "xdigit" => make fun c => (Text.hexValue? c).isSome
  | _ => Option.none

/-- The categories that a name of a general category, short or long, covers. -/
def categories? (name : String) : Option (List String) :=
  match name with
  | "lu" | "uppercaseletter" => some ["Lu"]
  | "ll" | "lowercaseletter" => some ["Ll"]
  | "lt" | "titlecaseletter" => some ["Lt"]
  | "lc" | "casedletter" => some ["Lu", "Ll", "Lt"]
  | "lm" | "modifierletter" => some ["Lm"]
  | "lo" | "otherletter" => some ["Lo"]
  | "l" | "letter" => some ["Lu", "Ll", "Lt", "Lm", "Lo"]
  | "mn" | "nonspacingmark" => some ["Mn"]
  | "mc" | "spacingmark" => some ["Mc"]
  | "me" | "enclosingmark" => some ["Me"]
  | "m" | "mark" | "combiningmark" => some ["Mn", "Mc", "Me"]
  | "nd" | "decimalnumber" | "digit" => some ["Nd"]
  | "nl" | "letternumber" => some ["Nl"]
  | "no" | "othernumber" => some ["No"]
  | "n" | "number" => some ["Nd", "Nl", "No"]
  | "pc" | "connectorpunctuation" => some ["Pc"]
  | "pd" | "dashpunctuation" => some ["Pd"]
  | "ps" | "openpunctuation" => some ["Ps"]
  | "pe" | "closepunctuation" => some ["Pe"]
  | "pi" | "initialpunctuation" => some ["Pi"]
  | "pf" | "finalpunctuation" => some ["Pf"]
  | "po" | "otherpunctuation" => some ["Po"]
  | "p" | "punctuation" | "punct" => some ["Pc", "Pd", "Ps", "Pe", "Pi", "Pf", "Po"]
  | "sm" | "mathsymbol" => some ["Sm"]
  | "sc" | "currencysymbol" => some ["Sc"]
  | "sk" | "modifiersymbol" => some ["Sk"]
  | "so" | "othersymbol" => some ["So"]
  | "s" | "symbol" => some ["Sm", "Sc", "Sk", "So"]
  | "zs" | "spaceseparator" => some ["Zs"]
  | "zl" | "lineseparator" => some ["Zl"]
  | "zp" | "paragraphseparator" => some ["Zp"]
  | "z" | "separator" => some ["Zs", "Zl", "Zp"]
  | "cc" | "control" | "cntrl" => some ["Cc"]
  | "cf" | "format" => some ["Cf"]
  | "cn" | "unassigned" => some ["Cn"]
  | "co" | "privateuse" => some ["Co"]
  | "c" | "other" => some ["Cc", "Cf", "Cn", "Co", "Cs"]
  | _ => Option.none

/-- The characters of a general category. -/
def category? (name : String) : Option CharClass :=
  match name with
  | "any" => some ⟨fun _ => true, 0, wideWeight⟩
  | "ascii" => some ⟨fun c => c.toNat < 128, 0, 48⟩
  | "assigned" => some ⟨fun c => Text.category c != "Cn", 0, 60000⟩
  | _ => (categories? name).map fun categories => ⟨Text.isOf categories, 0, 40000⟩

/-- The characters of a script. -/
def script? (name : String) : Option CharClass :=
  if (Text.scriptRanges.lookup name).isSome then some ⟨Text.inScript name, 0, 3000⟩
  else Option.none

/-- Properties that a character has or has not. -/
def property? (name : String) : Option CharClass :=
  match name with
  | "alphabetic" | "alpha" => some ⟨fun c =>
      Text.isLetter c || Text.isOf ["Nl"] c || Text.isLetterSymbol c, 0, 60000⟩
  | "whitespace" | "space" => some (blank true)
  | "uppercase" | "upper" => some ⟨fun c =>
      Text.isOf ["Lu"] c || Text.isLetterSymbol c && c.toNat < 0x24d0, 0, 40000⟩
  | "lowercase" | "lower" => some ⟨fun c =>
      Text.isOf ["Ll"] c || Text.isLetterSymbol c && 0x24d0 ≤ c.toNat && c.toNat ≤ 0x24e9, 0,
      40000⟩
  | "cased" => some ⟨Text.isCased, 0, 8000⟩
  | "caseignorable" | "ci" => some ⟨Text.isCaseIgnorable, 0, 20000⟩
  | _ => Option.none

/-- A name as it is looked up: in lower case, without blanks, underscores and hyphens, and without a
leading `is`. -/
def normalName (name : List Char) : String :=
  let plain := (name.filter fun c => c ≠ ' ' && c ≠ '_' && c ≠ '-').map Char.toLower
  match plain with
  | 'i' :: 's' :: rest => if rest = ['c'] then "isc" else String.ofList rest
  | _ => String.ofList plain

/-- The class in which a property has a value. -/
def ofValue? (property value : List Char) : Option CharClass :=
  match normalName property with
  | "generalcategory" | "gc" => category? (normalName value)
  | "script" | "sc" | "scriptextensions" | "scx" => script? (normalName value)
  | _ => Option.none

/-- The class of a property, a general category or a script that is named alone. -/
def alone? (name : List Char) : Option CharClass :=
  let name := normalName name
  (category? name).or ((script? name).or (property? name))

/-- The two sides of the first occurrence of a separator. -/
def splitAt? (separator : List Char) : List Char → Option (List Char × List Char)
  | [] => Option.none
  | c :: rest =>
    if (c :: rest).take separator.length = separator then
      some ([], (c :: rest).drop separator.length)
    else (splitAt? separator rest).map fun sides => (c :: sides.1, sides.2)

/-- The class of a name, or of `property=value`, `property:value` or `property!=value`; the last of
these is the class in which the property has another value. -/
def named? (name : List Char) : Option CharClass :=
  match splitAt? ['!', '='] name, splitAt? [':'] name, splitAt? ['='] name with
  | some (property, value), _, _ => (ofValue? property value).map complement
  | _, some (property, value), _ => ofValue? property value
  | _, _, some (property, value) => ofValue? property value
  | _, _, _ => alone? name

end CharClass

end RowMap.Pattern
