import RowMap.Query.Fault
import RowMap.Value.Coerce

/-!
# Errors

Every error is a cause. `Error.message` is the one place that words it. A store reports errors of
its own, of which only the kind and the text are known.
-/

namespace RowMap

/-- Why values and attributes do not fit together. -/
inductive MappingFault where
  | coercion (cause : CoercionError)
  | attribute (name : String) (cause : CoercionError)
  | unknownAttribute (key table : String)
  | noKeyAttribute (table key : String)
  | notAnObject (value : Document)

/-- What is told about a fault of the mapper. -/
def MappingFault.message : MappingFault → String
  | .coercion cause => cause.message
  | .attribute name cause => "attribute '" ++ name ++ "': " ++ cause.message
  | .unknownAttribute key table => "unknown attribute '" ++ key ++ "' for " ++ table
  | .noKeyAttribute table key => table ++ " declares no '" ++ key ++ "' attribute"
  | .notAnObject value => "expected a JSON object, got " ++ value.text

/-- Why an argument is refused. -/
inductive ArgumentFault where
  | negativeBound (fault : NegativeBound)
  | updateWithoutKey (table : String)
  | destroyWithoutKey (table : String)

/-- What is told about a wrong argument. -/
def ArgumentFault.message : ArgumentFault → String
  | .negativeBound fault =>
    fault.clause ++ " must be non-negative, got " ++ Value.integerText fault.bound
  | .updateWithoutKey table => "update of " ++ table ++ " needs a primary key"
  | .destroyWithoutKey table => "destroy of " ++ table ++ " needs a primary key"

/-- The kinds of errors. -/
inductive ErrorKind where
  | compilation
  | argument
  | mapping
  | persistence
  | config
  | lock
  deriving DecidableEq

/-- How the message of an error begins. -/
def ErrorKind.title : ErrorKind → String
  | .compilation => "Compilation error"
  | .argument => "Invalid argument"
  | .mapping => "Mapping error"
  | .persistence => "Persistence error"
  | .config => "Config error"
  | .lock => "Lock poisoned"

/-- All errors of the library. -/
inductive Error where
  | compilation (fault : CompilationFault)
  | argument (fault : ArgumentFault)
  | mapping (fault : MappingFault)
  /-- A count came back without a number. -/
  | noCount
  | malformedConfig
  /-- The lock of the store was held when a task failed. -/
  | poisoned
  /-- What a store reports. -/
  | reported (kind : ErrorKind) (text : String)

namespace Error

/-- The kind of an error. -/
def kind : Error → ErrorKind
  | .compilation _ => .compilation
  | .argument _ => .argument
  | .mapping _ => .mapping
  | .noCount => .persistence
  | .malformedConfig => .config
  | .poisoned => .lock
  | .reported kind _ => kind

/-- What is told about an error, without its title. -/
def detail : Error → String
  | .compilation fault => fault.message
  | .argument fault => fault.message
  | .mapping fault => fault.message
  | .noCount => "count returned no rows"
  | .malformedConfig => "malformed configuration"
  | .poisoned => "poisoned lock: another task failed inside"
  | .reported _ text => text

/-- The whole message of an error. -/
def message (e : Error) : String :=
  e.kind.title ++ ": " ++ e.detail

end Error

end RowMap
