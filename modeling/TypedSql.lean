import TypedSql.Postgres.Address
import TypedSql.Postgres.Row
import TypedSql.Session.Trial
import TypedSql.Session.Operations
import TypedSql.Statement.Inspect
import TypedSql.Tree.Equality
import TypedSql.Tree.Visitor
import TypedSql.Value.Tagged
import TypedSql.Proofs.Contents
import TypedSql.Proofs.Rendering
import TypedSql.Proofs.Checks
import TypedSql.Proofs.Regular
import TypedSql.Proofs.Scan
import TypedSql.Proofs.Pieces
import TypedSql.Proofs.Containment
import TypedSql.Proofs.Reader
import TypedSql.Proofs.Shape
import TypedSql.Proofs.Grammar
import TypedSql.Proofs.Words
import TypedSql.Proofs.Tokens
import TypedSql.Proofs.ExprReading
import TypedSql.Proofs.StatementReading
import TypedSql.Proofs.Readability
import TypedSql.Proofs.Sameness
import TypedSql.Proofs.Aligned
import TypedSql.Proofs.Spelling
import TypedSql.Proofs.EqualText
import TypedSql.Proofs.EqualHash
import TypedSql.Proofs.Named
import TypedSql.Proofs.Purity
import TypedSql.Proofs.Validation
import TypedSql.Proofs.Typing
import TypedSql.Proofs.Operation
import TypedSql.Proofs.Gating
import TypedSql.Proofs.Untagged
import TypedSql.Proofs.Batch
import TypedSql.Proofs.Builders
import TypedSql.Proofs.Watching
import TypedSql.Proofs.Parentheses
import TypedSql.Proofs.FirstRow
import TypedSql.Proofs.CallOrder
import TypedSql.Proofs.DigitRuns
import TypedSql.Proofs.CalendarReading
import TypedSql.Proofs.PayloadReading
import TypedSql.Proofs.JsonScanning
import TypedSql.Proofs.ShortestDigits
import TypedSql.Proofs.JsonNumbers
import TypedSql.Proofs.JsonReading
import TypedSql.Proofs.StoredJson
import TypedSql.Proofs.StoredRows
import TypedSql.Proofs.TwoPaths
import TypedSql.Proofs.RowCounts
import TypedSql.Proofs.Conditions
import TypedSql.Proofs.Assignments
import TypedSql.Proofs.Pages
import TypedSql.Proofs.ColumnPosition
import TypedSql.Proofs.Tuples
import TypedSql.Proofs.Widening
import TypedSql.Proofs.PostgresRows
import TypedSql.Proofs.Integers
import TypedSql.Proofs.Environment
import TypedSql.Proofs.PartialVisits
