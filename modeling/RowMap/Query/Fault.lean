import RowMap.Query.Basic

/-!
# Faults of a query

Why a tree or a write has no SQL. A fault is found before anything is sent to a store.
-/

namespace RowMap

inductive CompilationFault where
  | emptyColumnName
  | emptyFunctionName
  | emptyTableName
  /-- An alias inside of another expression. -/
  | misplacedAlias (label : String)
  | missingLeft (op : Comparison)
  | missingRight (op : Comparison)
  | surplusRight (op : Comparison)
  | emptyList (op : Comparison)
  | notACollection (op : Comparison)
  | notSingle (op : Comparison)
  | negationArity (operands : Nat)
  | emptyGroup (connective : Connective)
  /-- Text whose placeholders are not as many as its parameters. -/
  | parameterCount (text : String) (placeholders params : Nat)
  | joinWithoutSource
  | noAssignments (table : String)
  | updateParameterCount (table : String) (placeholders params : Nat)
  deriving DecidableEq

namespace CompilationFault

def message : CompilationFault → String
  | .emptyColumnName => "column name is empty"
  | .emptyFunctionName => "function name is empty"
  | .emptyTableName => "table name is empty"
  | .misplacedAlias label => "alias '" ++ label ++ "' is only allowed in the outermost projection"
  | .missingLeft op => "'" ++ op.sql ++ "' comparison is missing its left operand"
  | .missingRight op => "'" ++ op.sql ++ "' comparison is missing its right operand"
  | .surplusRight op => "'" ++ op.sql ++ "' does not take a right operand"
  | .emptyList op => "'" ++ op.sql ++ "' list is empty"
  | .notACollection op => "'" ++ op.sql ++ "' expects a list or a dataset"
  | .notSingle op => "'" ++ op.sql ++ "' expects a single operand"
  | .negationArity operands => "NOT takes exactly one operand, got " ++ Decimal.text operands
  | .emptyGroup connective => connective.sql ++ " requires at least one operand"
  | .parameterCount text placeholders params =>
    "raw fragment '" ++ text ++ "' has " ++ Decimal.text placeholders ++ " placeholders but "
      ++ Decimal.text params ++ " parameters"
  | .joinWithoutSource => "join without a source dataset"
  | .noAssignments table => "update of '" ++ table ++ "' has no assignments"
  | .updateParameterCount table placeholders params =>
    "update of " ++ table ++ " has " ++ Decimal.text placeholders ++ " placeholders but "
      ++ Decimal.text params ++ " parameters"

end CompilationFault

end RowMap
