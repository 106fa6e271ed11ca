import Pushdown.Main
import Pushdown.Proofs.DataType
import Pushdown.Proofs.Dialect
import Pushdown.Proofs.Load.Statement
import Pushdown.Proofs.Remote.Session
import Pushdown.Proofs.Sql.Ambiguity
import Pushdown.Proofs.Sql.BooleanTree
import Pushdown.Proofs.Sql.Extension
import Pushdown.Proofs.Sql.Formula
import Pushdown.Proofs.Sql.Legible
import Pushdown.Proofs.Sql.Payload
import Pushdown.Proofs.Sql.Piece
import Pushdown.Proofs.Sql.Predicate
import Pushdown.Proofs.Sql.Scan
import Pushdown.Proofs.Sql.Settling
import Pushdown.Proofs.Sql.Structure
import Pushdown.Proofs.Sql.WellFormed
import Pushdown.Proofs.Text.Value
import Pushdown.Proofs.Text.Quoted
import Pushdown.Proofs.Tree
import Pushdown.Proofs.Sql.Outcome
import Pushdown.Proofs.Sql.Comment
import Pushdown.Proofs.Schema.Reader
import Pushdown.Proofs.Schema.Eligible
import Pushdown.Proofs.Load.Course
import Pushdown.Proofs.Remote.Steady
import Pushdown.Proofs.Adapter
import Pushdown.Proofs.Sql.SortOrder
import Pushdown.Proofs.Decimal
import Pushdown.Proofs.TypeMapping
import Pushdown.Proofs.Schema.Qualifier
import Pushdown.Proofs.Registry
import Pushdown.Proofs.Fault
import Pushdown.Proofs.Validation
import Pushdown.Proofs.Vocabulary
import Pushdown.Proofs.Text.Distance
import Pushdown.Proofs.Capability
import Pushdown.Proofs.Json.ReadBack
import Pushdown.Proofs.Json.Record
import Pushdown.Proofs.Schema.Notes
import Pushdown.Proofs.Rejection
import Pushdown.Proofs.Cli.Envelope
import Pushdown.Proofs.Dictionary
import Pushdown.Proofs.Properties
import Pushdown.Proofs.Remote.Provenance
import Pushdown.Proofs.EmptyValue
import Pushdown.Proofs.Cli.Status
import Pushdown.Proofs.Cli.Agreement
import Pushdown.Proofs.Sql.Literal
import Pushdown.Proofs.Double.Rounding
import Pushdown.Proofs.Double.Shortest
import Pushdown.Proofs.Double.Text
import Pushdown.Proofs.Sql.Word
import Pushdown.Proofs.Sql.JoinTree
import Pushdown.Proofs.Double.Nearest
import Pushdown.Proofs.Sql.RowLimit
import Pushdown.Proofs.Fault.Json
import Pushdown.Proofs.Sql.Part
