import RowMap.Binary64.Text
import RowMap.Json.Text
import RowMap.Text.Utf8
import RowMap.Timestamp.Text

/-!
# Values

`Value` is what an attribute, a parameter or a cell holds. `Value.text` displays a value. A store
knows fewer types than that: `Value.toCell` gives the cell in which a value is kept and
`Value.ofCell` what is read from a cell.
-/

namespace RowMap

/-- A single value. -/
inductive Value where
  | null
  | integer (value : Int64)
  | real (value : Binary64)
  | text (value : String)
  | boolean (value : Bool)
  | timestamp (value : Timestamp)
  | blob (bytes : ByteArray)
  | json (value : Document)

namespace Value

/-- Whether there is no value. -/
def isNull : Value → Bool
  | .null => true
  | _ => false

/-- The value as an integer. -/
def asInteger? : Value → Option Int64
  | .integer i => some i
  | _ => none

/-- A real, or the double nearest to an integer. -/
def asReal? : Value → Option Binary64
  | .real r => some r
  | .integer i => some (Binary64.ofInt i.toInt)
  | _ => none

/-- The value as text. -/
def asText? : Value → Option String
  | .text s => some s
  | _ => none

/-- The value as a boolean. -/
def asBoolean? : Value → Option Bool
  | .boolean b => some b
  | _ => none

/-- The value as a timestamp. -/
def asTimestamp? : Value → Option Timestamp
  | .timestamp t => some t
  | _ => none

/-- The value of a JSON object. -/
def asExtended? : Value → Option Document
  | .json d => if d.isObject then some d else none
  | _ => none

/-- The word for the type of a value. -/
def typeName : Value → String
  | .null => "null"
  | .integer _ => "integer"
  | .real _ => "real"
  | .text _ => "text"
  | .boolean _ => "boolean"
  | .timestamp _ => "timestamp"
  | .blob _ => "blob"
  | .json _ => "json"

/-- An integer in digits. -/
def integerText (i : Int64) : String :=
  Decimal.signedText i.toInt

/-- A boolean as a word. -/
def booleanText (b : Bool) : String :=
  if b then "true" else "false"

/-- The value as it is shown to people. -/
def display : Value → String
  | .null => "NULL"
  | .integer i => integerText i
  | .real r => r.text
  | .text s => s
  | .boolean b => booleanText b
  | .timestamp t => t.text
  | .blob bytes => "<" ++ Decimal.text bytes.size ++ " bytes>"
  | .json d => d.text

end Value

/-- What a store keeps in one column of one row. -/
inductive Cell where
  | null
  | integer (value : Int64)
  | real (value : Binary64)
  | text (bytes : ByteArray)
  | blob (bytes : ByteArray)

namespace Value

/-- The cell in which a value is kept. Booleans are kept as 0 and 1, timestamps and JSON values as
text. -/
def toCell : Value → Cell
  | .null => .null
  | .integer i => .integer i
  | .real r => .real r
  | .text s => .text s.toUTF8
  | .boolean b => .integer (if b then 1 else 0)
  | .timestamp t => .text t.text.toUTF8
  | .blob bytes => .blob bytes
  | .json d => .text d.text.toUTF8

/-- The value that is read from a cell. -/
def ofCell : Cell → Value
  | .null => .null
  | .integer i => .integer i
  | .real r => .real r
  | .text bytes => .text (Text.decode bytes)
  | .blob bytes => .blob bytes

/-- The value of a JSON number: an integer if it fits, otherwise the nearest double. -/
def ofNumber : Json.Number → Value
  | .integer n _ =>
    match int64? n with
    | some i => .integer i
    | none => .real (Binary64.ofInt n)
  | .real r _ => .real r

/-- Scalars become scalars; arrays and objects stay JSON. -/
def ofDocument : Document → Value
  | ⟨.null, _⟩ => .null
  | ⟨.boolean b, _⟩ => .boolean b
  | ⟨.number n, _⟩ => ofNumber n
  | ⟨.string s, _⟩ => .text s
  | d => .json d

end Value

end RowMap
