import EntityTables.Calendar.Date
import EntityTables.Codec.JsonBody
import EntityTables.Content.Access
import EntityTables.Derive.Entity
import EntityTables.Entity.Derived
import EntityTables.Gateway.Recorder
import EntityTables.Main
import EntityTables.Proofs.Sql.Lexing
import EntityTables.Proofs.Sql.Parsing
import EntityTables.Proofs.Schema.Definition
import EntityTables.Proofs.Binary.Nearest
import EntityTables.Proofs.Binary.Number
import EntityTables.Proofs.Entity.Stored
import EntityTables.Proofs.Entity.Fields
import EntityTables.Proofs.Entity.Passage
import EntityTables.Proofs.Entity.RoundTrip
import EntityTables.Proofs.Sql.Statements
import EntityTables.Proofs.Sql.Conditions
import EntityTables.Proofs.Sql.Prefixes
import EntityTables.Proofs.Database.Places
import EntityTables.Proofs.Database.Rows
import EntityTables.Proofs.Database.Statements
import EntityTables.Proofs.Gateway.Connection
import EntityTables.Proofs.Gateway.Requests
import EntityTables.Proofs.Database.Held
import EntityTables.Proofs.Registry
import EntityTables.Proofs.Derive.Restated
import EntityTables.Proofs.Sql.Broken
import EntityTables.Proofs.Sql.Narrowing
import EntityTables.Proofs.Dispatcher.Operations
import EntityTables.Proofs.Dispatcher.Readback
import EntityTables.Proofs.Dispatcher.Reference
import EntityTables.Proofs.Dispatcher.Ledger
import EntityTables.Proofs.Dispatcher.Represents
import EntityTables.Proofs.Dispatcher.Refinement
import EntityTables.Proofs.Schema.Ordered
import EntityTables.Proofs.Schema.TableNames
import EntityTables.Proofs.Derive.FullPaths
import EntityTables.Proofs.Registry.Tables
import EntityTables.Proofs.Registry.History
import EntityTables.Proofs.Text.Literal
import EntityTables.Proofs.Adapter.Evaluation
import EntityTables.Proofs.Adapter.Restatement
import EntityTables.Proofs.Gateway.Failure
import EntityTables.Proofs.Database.Additions
import EntityTables.Proofs.Database.Reach
import EntityTables.Proofs.Content.Writes
import EntityTables.Proofs.Content.Batches
import EntityTables.Proofs.Content.Uri
import EntityTables.Proofs.Content.Addresses
import EntityTables.Proofs.Content.Confinement
import EntityTables.Proofs.Json.Scalars
import EntityTables.Proofs.Json.Text
import EntityTables.Proofs.Text.Utf8
import EntityTables.Proofs.Codec.Collections
import EntityTables.Proofs.Codec.Inversion
import EntityTables.Proofs.Schema.Stored
import EntityTables.Proofs.Schema.Coherence
import EntityTables.Proofs.Schema.ColumnNames
import EntityTables.Proofs.Text.Digits
import EntityTables.Proofs.Derive.Grouping
import EntityTables.Proofs.Entity.Refusal
import EntityTables.Proofs.Source.Words
import EntityTables.Proofs.Source.Pieces
import EntityTables.Proofs.Source.Reads
import EntityTables.Proofs.Source.Paths
import EntityTables.Proofs.Source.Expressions
import EntityTables.Proofs.Source.Operands
import EntityTables.Proofs.Source.ExpressionReads
import EntityTables.Proofs.Source.Functions
import EntityTables.Proofs.Source.Fitting
import EntityTables.Proofs.Adapter.Trees
import EntityTables.Proofs.Adapter.Functions
import EntityTables.Proofs.Adapter.Parsing
import EntityTables.Proofs.Derive.Acceptance
import EntityTables.Proofs.Value.RowValues
import EntityTables.Proofs.Schema.Building
import EntityTables.Proofs.Content.Grammar
import EntityTables.Proofs.Content.Resolution
import EntityTables.Proofs.Sql.Names
import EntityTables.Proofs.Value.Dates
import EntityTables.Proofs.Gateway.Ordered
import EntityTables.Proofs.Gateway.Counts
import EntityTables.Proofs.Content.Counts
import EntityTables.Proofs.Codec.Traversal
import EntityTables.Proofs.Entity.Determinism
