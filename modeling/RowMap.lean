import RowMap.Engine.Request
import RowMap.Proofs.Condition.Meaning
import RowMap.Proofs.Query.Parameters
import RowMap.Proofs.Engine.Batch
import RowMap.Proofs.Record.Kept
import RowMap.Settings.Basic
import RowMap.Store.Script
import RowMap.Proofs.Record.Camel
import RowMap.Proofs.Query.WellFormed
import RowMap.Proofs.Query.Outline
import RowMap.Proofs.Query.Dialects
import RowMap.Proofs.Engine.Panic
import RowMap.Proofs.Query.Refinement
import RowMap.Proofs.Condition.Filters
import RowMap.Proofs.Engine.Keyed
import RowMap.Proofs.Store.Calls
import RowMap.Proofs.Engine.Save
import RowMap.Proofs.Engine.Refusal
import RowMap.Proofs.Engine.Leftover
import RowMap.Proofs.Engine.Together
import RowMap.Proofs.Record.Reference
import RowMap.Proofs.Value.Integer
import RowMap.Proofs.Sql.Finished
import RowMap.Proofs.Engine.Clauses
import RowMap.Proofs.Record.Spelling
import RowMap.Proofs.Record.Underscore
import RowMap.Proofs.Engine.Written
import RowMap.Proofs.Sql.Numbered
import RowMap.Proofs.Sql.Lexeme
import RowMap.Proofs.Value.Text
import RowMap.Proofs.Engine.Produced
import RowMap.Proofs.Value.Real
import RowMap.Proofs.Record.Rules
import RowMap.Proofs.Engine.Indifferent
import RowMap.Proofs.Record.Number
