import RowMap.Sql.Placeholder

/-!
# Dialects

Statements are built in a neutral form. A dialect decides how the row window is written and how the
placeholders of a whole statement look. A store that knows no offset without a limit gets the limit
that excludes nothing.
-/

namespace RowMap

inductive Dialect where
  | neutral
  | sqlite
  | mysql
  | postgres
  deriving DecidableEq

namespace Dialect

def name : Dialect → String
  | .neutral => "neutral"
  | .sqlite => "sqlite"
  | .mysql => "mysql"
  | .postgres => "postgres"

/-- The four dialects. -/
def all : List Dialect :=
  [.neutral, .sqlite, .mysql, .postgres]

/-- What is written before an offset that has no limit of its own. -/
def limitlessPart : Dialect → String
  | .sqlite => "LIMIT -1 "
  | .mysql => "LIMIT 18446744073709551615 "
  | _ => ""

/-- The clause for a limit and an offset; none if neither is given. -/
def window? (dialect : Dialect) : (limit offset : Option UInt64) → Option String
  | none, none => none
  | some limit, none => some ("LIMIT " ++ Decimal.text limit.toNat)
  | none, some offset => some (dialect.limitlessPart ++ "OFFSET " ++ Decimal.text offset.toNat)
  | some limit, some offset =>
    some ("LIMIT " ++ Decimal.text limit.toNat ++ " OFFSET " ++ Decimal.text offset.toNat)

/-- The text of a whole statement as the store wants it. -/
def finalize : Dialect → String → String
  | .postgres, sql => Sql.numbered sql
  | _, sql => sql

end Dialect

end RowMap
