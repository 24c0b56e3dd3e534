import RowMap.Binary64.Text
import RowMap.Json.Text
import RowMap.Text.Case

/-!
# Configuration values

A configuration is a table of values that several sources contribute to. A key of a source may be a
path such as `a.b`, which reaches into a table; later contributions replace earlier ones, except
that tables are merged.
-/

namespace RowMap

/-- Gives a field a value, instead of the one it has if it has one; a new field comes last. -/
def putEntry {α : Type} (key : String) (value : α) : List (String × α) → List (String × α)
  | [] => [(key, value)]
  | (k, v) :: rest => if k = key then (key, value) :: rest else (k, v) :: putEntry key value rest

/-- The values of all formats of configurations. -/
inductive Config where
  | nothing
  | boolean (value : Bool)
  | integer (value : Int)
  | float (value : Binary64)
  | string (value : String)
  | array (items : List Config)
  | table (fields : List (String × Config))

namespace Config

/-- A whole number that fits 64 bits with its sign. -/
def int64? (negative : Bool) (magnitude : Nat) : Option Config :=
  let n : Int := if negative then -(magnitude : Int) else magnitude
  if FitsSigned n then some (.integer n) else none

/-- A scalar as text. -/
def asText? : Config → Option String
  | .boolean b => some (if b then "true" else "false")
  | .integer n => some (Decimal.signedText n)
  | .float r => some r.text
  | .string s => some s
  | _ => none

/-- A truth value, a number that is or is not zero, or one of the words for yes and no. -/
def asBoolean? : Config → Option Bool
  | .boolean b => some b
  | .integer n => some (n ≠ 0)
  | .float r => some (!(r = Binary64.zero false || r = Binary64.zero true))
  | .string s =>
    let word := String.ofList (Text.lower s.toList)
    if word ∈ ["1", "true", "on", "yes"] then some true
    else if word ∈ ["0", "false", "off", "no"] then some false
    else none
  | _ => none

/-- The word of a choice: a string, or the key of a table with a single field. -/
def asChoice? : Config → Option String
  | .string s => some s
  | .table [(key, _)] => some key
  | _ => none

/-- A step into a value: to a field of a table, or to an item of an array. -/
inductive Step where
  | field (name : String)
  | item

/-- Characters in the path of a field. -/
def isPathChar (c : Char) : Bool :=
  c.isAlphanum || c = '_' || c = '-'

/-- The steps behind the first name of a path; each round takes one of them. -/
def readSteps : (rounds : Nat) → List Char → Option (List Step)
  | _, [] => some []
  | 0, _ => none
  | rounds + 1, '.' :: rest =>
    let name := rest.takeWhile isPathChar
    if name = [] then none
    else (readSteps rounds (rest.dropWhile isPathChar)).map (.field (String.ofList name) :: ·)
  | rounds + 1, '[' :: rest =>
    let unsigned := if rest.head? = some '-' then rest.tail else rest
    match unsigned.takeWhile Decimal.isDigit, unsigned.dropWhile Decimal.isDigit with
    | _ :: _, ']' :: rest => (readSteps rounds rest).map (.item :: ·)
    | _, _ => none
  | _, _ => none

/-- The name and the further steps of a key; a key that is no path is a name as a whole. -/
def readPath (key : String) : String × List Step :=
  let cs := key.toList
  let name := cs.takeWhile isPathChar
  match name, readSteps cs.length (cs.dropWhile isPathChar) with
  | _ :: _, some steps => (String.ofList name, steps)
  | _, _ => (key, [])

/-- A value in the place of another one. The fields of a table are added to those that are there. -/
def merge (old new : Config) : Config :=
  match old, new with
  | .table fields, .table further =>
    .table (further.foldl (fun fields f => putEntry f.1 f.2 fields) fields)
  | _, new => new

/-- Sets the part of a value that the steps lead to. -/
def setAt (new : Config) : List Step → Config → Config
  | [], old => merge old new
  | .field name :: steps, .table fields =>
    .table (putEntry name (setAt new steps ((lookupKey? name fields).getD .nothing)) fields)
  | .field name :: steps, _ => .table [(name, setAt new steps .nothing)]
  | .item :: steps, _ => .array [setAt new steps .nothing]

/-- Adds the contribution of one key. -/
def contribute (fields : List (String × Config)) (entry : String × Config) :
    List (String × Config) :=
  let (name, steps) := readPath entry.1
  putEntry name (setAt entry.2 steps ((lookupKey? name fields).getD .nothing)) fields

/-- A number that does not fit is taken as a double. -/
def ofNumber : Json.Number → Config
  | .integer n _ => if FitsSigned n then .integer n else .float (Binary64.ofInt n)
  | .real r _ => .float r

mutual

/-- A value of the format as a configuration. -/
def ofJson : Json → Config
  | .null => .nothing
  | .boolean b => .boolean b
  | .number n => ofNumber n
  | .string s => .string s
  | .array items => .array (ofItems items)
  | .object fields => .table (ofFields fields)

def ofItems : List Json → List Config
  | [] => []
  | item :: rest => ofJson item :: ofItems rest

def ofFields : List (String × Json) → List (String × Config)
  | [] => []
  | (key, value) :: rest => (key, ofJson value) :: ofFields rest

end

/-- The fields of a JSON text that holds an object. -/
def readJson? (text : String) : Option (List (String × Config)) :=
  match Document.read? text with
  | some ⟨.object fields, _⟩ => some (ofFields fields)
  | _ => none

end Config

end RowMap
