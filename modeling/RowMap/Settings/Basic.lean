import RowMap.Error
import RowMap.Record.Mapper
import RowMap.Settings.Ini
import RowMap.Settings.Json5
import RowMap.Settings.Ron
import RowMap.Settings.Toml
import RowMap.Settings.Yaml

/-!
# Settings

Settings come from an optional file and from environment variables, which take precedence. What
neither of them sets has its default; keys that mean nothing are ignored.
-/

namespace RowMap

/-- What can be configured. -/
structure Settings where
  /-- The file of the store; it is kept in memory if there is none. -/
  databasePath : Option String
  keyStyle : KeyStyle
  strictMapping : Bool
  logFilter : String
  deriving DecidableEq

/-- Where a store keeps its rows. -/
inductive PersistenceMode where
  | inMemory
  | file (path : String)
  deriving DecidableEq

namespace Settings

/-- What holds without any configuration. -/
def default : Settings :=
  ⟨none, .camel, false, "objsql=info"⟩

/-- Where rows are kept. -/
def persistenceMode (s : Settings) : PersistenceMode :=
  match s.databasePath with
  | some path => .file path
  | none => .inMemory

/-- How records are mapped. -/
def mapper (s : Settings) : Mapper :=
  ⟨s.keyStyle, s.strictMapping⟩

/-- The variables whose names begin like this are settings; the case of their names is ignored. -/
def variableStart : String := "objsql_"

/-- The reader of the files with an extension; none for a format that is not known. -/
def reader? (extension : String) : Option (String → Option (List (String × Config))) :=
  match extension with
  | "json" => some Config.readJson?
  | "toml" => some Toml.read?
  | "yaml" | "yml" => some Yaml.read?
  | "ini" => some Ini.read?
  | "json5" => some Json5.read?
  | "ron" => some Ron.read?
  | _ => none

/-- A text without the byte order mark that may stand before it. -/
def withoutMark (text : String) : String :=
  match text.toList with
  | c :: rest => if c.toNat = 0xfeff then String.ofList rest else text
  | [] => text

/-- The fields of a file, given by its extension and its text. A file in a format that is not known
counts as an empty one. -/
def readFile (extension text : String) : Except Error (List (String × Config)) :=
  match reader? extension with
  | none => .ok []
  | some read? =>
    match read? (withoutMark text) with
    | some fields => .ok fields
    | none => .error .malformedConfig

/-- The contribution of an environment variable, if it is a setting. -/
def ofVariable? (entry : String × String) : Option (String × Config) :=
  let name := Text.lower entry.1.toList
  let start := variableStart.toList
  if name.take start.length = start then
    some (String.ofList (name.drop start.length), .string entry.2)
  else none

/-- A field that is read if it is there, and otherwise has its default. -/
def fieldOr {α : Type} (fallback : α) (read? : Config → Option α) (key : String)
    (fields : List (String × Config)) : Except Error α :=
  match lookupKey? key fields with
  | none => .ok fallback
  | some value =>
    match read? value with
    | some a => .ok a
    | none => .error .malformedConfig

/-- A path, or none if nothing is given for it. -/
def readPath? : Config → Option (Option String)
  | .nothing => some none
  | value => value.asText?.map some

/-- One of the two styles. -/
def readStyle? (value : Config) : Option KeyStyle :=
  match value.asChoice? with
  | some "camel" => some .camel
  | some "underscore" => some .underscore
  | _ => none

/-- The settings of a table; a field that is missing has its default. -/
def ofFields (fields : List (String × Config)) : Except Error Settings := do
  let databasePath ← fieldOr default.databasePath readPath? "database_path" fields
  let keyStyle ← fieldOr default.keyStyle readStyle? "key_style" fields
  let strictMapping ← fieldOr default.strictMapping Config.asBoolean? "strict_mapping" fields
  let logFilter ← fieldOr default.logFilter Config.asText? "log_filter" fields
  return ⟨databasePath, keyStyle, strictMapping, logFilter⟩

/-- The settings of a file, given by its extension and its text, and of environment variables. -/
def load (file : Option (String × String)) (environment : List (String × String)) :
    Except Error Settings := do
  let fromFile ← match file with
    | some (extension, text) => readFile extension text
    | none => .ok []
  ofFields ((fromFile ++ environment.filterMap ofVariable?).foldl Config.contribute [])

end Settings

end RowMap
