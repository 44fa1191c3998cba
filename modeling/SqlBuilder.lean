import SqlBuilder.Binder
import SqlBuilder.Bindings
import SqlBuilder.Calendar
import SqlBuilder.Call
import SqlBuilder.Column
import SqlBuilder.Condition
import SqlBuilder.Decimal
import SqlBuilder.Decimal.Shortest
import SqlBuilder.Dict
import SqlBuilder.Edit
import SqlBuilder.Entries
import SqlBuilder.Failure
import SqlBuilder.Identifier
import SqlBuilder.Join
import SqlBuilder.Join.Keywords
import SqlBuilder.Json
import SqlBuilder.Json.Reader
import SqlBuilder.Json.Writer
import SqlBuilder.Literal
import SqlBuilder.Operand
import SqlBuilder.Placeholder
import SqlBuilder.Query
import SqlBuilder.Query.Compile
import SqlBuilder.Query.Snapshot
import SqlBuilder.Query.Statement
import SqlBuilder.Session
import SqlBuilder.Subquery
import SqlBuilder.Text.Blank
import SqlBuilder.Text.Word
import SqlBuilder.Timestamp
import SqlBuilder.Timestamp.Reader
import SqlBuilder.Value
import SqlBuilder.Proofs.Placeholder.Leftmost
import SqlBuilder.Proofs.Compile.Complete
import SqlBuilder.Proofs.Compile.Resolution
import SqlBuilder.Proofs.Compile.ClauseOrder
import SqlBuilder.Proofs.Lockstep
import SqlBuilder.Proofs.Substitution.Relation
import SqlBuilder.Proofs.Substitution.Subquery
import SqlBuilder.Proofs.Substitution.Condition
import SqlBuilder.Proofs.Substitution.Join
import SqlBuilder.Proofs.Substitution.Edit
import SqlBuilder.Proofs.Substitution.Call
import SqlBuilder.Proofs.Substitution.Compile
import SqlBuilder.Proofs.Substitution.Session
import SqlBuilder.Proofs.Session
import SqlBuilder.Proofs.Names.Generated
import SqlBuilder.Proofs.Names.Growth
import SqlBuilder.Proofs.Supply.Texts
import SqlBuilder.Proofs.Supply.Closed
import SqlBuilder.Proofs.Supply.Writes
import SqlBuilder.Proofs.Supply.Condition
import SqlBuilder.Proofs.Supply.Join
import SqlBuilder.Proofs.Supply.Edit
import SqlBuilder.Proofs.Supply.Call
import SqlBuilder.Proofs.Supply.Session
import SqlBuilder.Proofs.Names.Session
import SqlBuilder.Proofs.Merging.TakesOver
import SqlBuilder.Proofs.Merging.Clash
import SqlBuilder.Proofs.Merging.Embedding
import SqlBuilder.Proofs.Merging.Collected
import SqlBuilder.Proofs.Compile.Remaining
import SqlBuilder.Proofs.Compile.Outcome
import SqlBuilder.Proofs.Keeps
import SqlBuilder.Proofs.Frame
import SqlBuilder.Proofs.Conditions.Formula
import SqlBuilder.Proofs.Conditions.Nested
import SqlBuilder.Proofs.Conditions.Solid
import SqlBuilder.Proofs.Conditions.Guard
import SqlBuilder.Proofs.Conditions.Documented
import SqlBuilder.Proofs.Conditions.Follows
import SqlBuilder.Proofs.Conditions.Record
import SqlBuilder.Proofs.Snapshot.Timestamp
import SqlBuilder.Proofs.Snapshot.RoundTrip
import SqlBuilder.Proofs.Rejection.Column
import SqlBuilder.Proofs.Rejection.Progress
import SqlBuilder.Proofs.Rejection.Call
import SqlBuilder.Proofs.Renaming.Aligned
import SqlBuilder.Proofs.Renaming.Abreast
import SqlBuilder.Proofs.Renaming.Fragments
import SqlBuilder.Proofs.Renaming.Clauses
import SqlBuilder.Proofs.Renaming.Compile
import SqlBuilder.Proofs.Renaming.Plain
import SqlBuilder.Proofs.Renaming.Commute
import SqlBuilder.Proofs.Columns.Installed
import SqlBuilder.Proofs.Quoting.Literal
import SqlBuilder.Proofs.Quoting.Identifier
import SqlBuilder.Proofs.Assignments.Record
import SqlBuilder.Proofs.Assignments.Places
import SqlBuilder.Proofs.Assignments.Overwritten
import SqlBuilder.Proofs.Rows.Basic
import SqlBuilder.Proofs.Rows.Added
import SqlBuilder.Proofs.Rows.Arity
import SqlBuilder.Proofs.Rows.Expression
import SqlBuilder.Proofs.Akin
import SqlBuilder.Proofs.Conditions.OneField
import SqlBuilder.Proofs.Conditions.Excluded
import SqlBuilder.Proofs.Conditions.Tests
import SqlBuilder.Proofs.Conditions.Beside
import SqlBuilder.Proofs.Conditions.Negation
import SqlBuilder.Proofs.Joins.Fields
import SqlBuilder.Proofs.Joins.Reading
import SqlBuilder.Proofs.Joins.Flat
import SqlBuilder.Proofs.Joins.Keywords
import SqlBuilder.Proofs.Joins.Formed
import SqlBuilder.Proofs.Compile.Selection
import SqlBuilder.Proofs.Columns.Bound
import SqlBuilder.Proofs.Placeholder.Named
import SqlBuilder.Proofs.Operands.Json
import SqlBuilder.Proofs.Operands.Fields
