import ObjectQuery.Cell.Mysql
import ObjectQuery.Cell.Postgresql.Server
import ObjectQuery.Cell.Sqlite
import ObjectQuery.Command.Local
import ObjectQuery.Command.Run
import ObjectQuery.Literal
import ObjectQuery.Main
import ObjectQuery.Query.Builder
import ObjectQuery.Query.Writer
import ObjectQuery.Proofs.Dict
import ObjectQuery.Proofs.Outcome
import ObjectQuery.Proofs.Schema.Verified
import ObjectQuery.Proofs.Schema.Serving
import ObjectQuery.Proofs.Order
import ObjectQuery.Proofs.Query.Meaning
import ObjectQuery.Proofs.Plan.Provenance
import ObjectQuery.Proofs.Sql.Columns
import ObjectQuery.Proofs.Plan.Resolution
import ObjectQuery.Proofs.Query.Compilation
import ObjectQuery.Proofs.Db.Labels
import ObjectQuery.Proofs.Number.Spelling
import ObjectQuery.Proofs.Sql.Outline
import ObjectQuery.Proofs.Sql.Reading
import ObjectQuery.Proofs.Sql.Legibility
import ObjectQuery.Proofs.Sql.Quotation
import ObjectQuery.Proofs.Sql.Naming
import ObjectQuery.Proofs.Sql.Renaming
import ObjectQuery.Proofs.Plan.Literals
import ObjectQuery.Proofs.Sql.Agreement
import ObjectQuery.Proofs.Plan.Pipeline
import ObjectQuery.Proofs.Query.Unmapped
import ObjectQuery.Proofs.Sql.Template
import ObjectQuery.Proofs.Db.Explained
import ObjectQuery.Proofs.Sql.Tokens
import ObjectQuery.Proofs.Sql.Idempotence
import ObjectQuery.Proofs.Schema.Relabeling
import ObjectQuery.Proofs.Query.Opacity
import ObjectQuery.Proofs.Schema.Acceptance
import ObjectQuery.Proofs.Catalog.Switchboard
import ObjectQuery.Proofs.Catalog.Connecting
import ObjectQuery.Proofs.Catalog.Registration
import ObjectQuery.Proofs.Catalog.Closing
import ObjectQuery.Proofs.Db.Routing
import ObjectQuery.Proofs.Query.Pruning
import ObjectQuery.Proofs.Cell.Repetition
import ObjectQuery.Proofs.Query.Transcript
import ObjectQuery.Proofs.Target.Synthesis
import ObjectQuery.Proofs.Sql.Failure
import ObjectQuery.Proofs.Sql.Preservation
import ObjectQuery.Proofs.Sql.Unterminated
import ObjectQuery.Proofs.Sql.Refusal
import ObjectQuery.Proofs.Number.Numeral
import ObjectQuery.Proofs.Literal.Encoding
import ObjectQuery.Proofs.Plan.Construction
import ObjectQuery.Proofs.Literal.Truncation
import ObjectQuery.Proofs.Cell.Temporal
import ObjectQuery.Proofs.Target.Login
import ObjectQuery.Proofs.Error
import ObjectQuery.Proofs.Sql.Partition
import ObjectQuery.Proofs.Sql.Stability
