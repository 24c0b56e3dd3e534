import RowMap.Text.Case

/-!
# Key styles

Attributes are declared in underscore style (`member_id`); maps may also use camel style
(`memberId`). `toUnderscore` and `toCamel` convert a key.
-/

namespace RowMap

inductive KeyStyle where
  | camel
  | underscore
  deriving DecidableEq

namespace KeyStyle

/-- A capital letter after such a character begins a word. -/
def endsWord (c : Char) : Bool :=
  c.isLower || c.isDigit

/-- Puts an underscore before each capital letter that begins a word. -/
def splitWords : List Char → List Char
  | a :: b :: rest =>
    if endsWord a && b.isUpper then a :: '_' :: splitWords (b :: rest)
    else a :: splitWords (b :: rest)
  | short => short

/-- The key with its words divided by underscores, in lower case. -/
def toUnderscore (key : String) : String :=
  String.ofList (Text.lower (splitWords key.toList))

/-- Drops underscores and capitalises what follows them. `started` tells whether anything has been
written yet; leading underscores are dropped without a trace. -/
def camelFrom (started capital : Bool) : List Char → List Char
  | [] => []
  | c :: rest =>
    if c = '_' then camelFrom started started rest
    else (if capital then Text.upperChar c else [c]) ++ camelFrom true false rest

/-- The key with each word but the first capitalised. -/
def toCamel (key : String) : String :=
  String.ofList (camelFrom false false key.toList)

/-- The spelling of a declared name in a style. -/
def apply : KeyStyle → String → String
  | .camel, name => toCamel name
  | .underscore, name => name

end KeyStyle

end RowMap
