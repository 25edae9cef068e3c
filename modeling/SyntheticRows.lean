import SyntheticRows.Catalog.Basic
import SyntheticRows.Catalog.Document
import SyntheticRows.Catalog.Table
import SyntheticRows.ColumnType.Basic
import SyntheticRows.ColumnType.Declaration
import SyntheticRows.ColumnType.Document
import SyntheticRows.ColumnType.Fault
import SyntheticRows.ColumnType.Parser
import SyntheticRows.ColumnType.Spelling
import SyntheticRows.Command.Arguments
import SyntheticRows.Command.Connection
import SyntheticRows.Command.Error
import SyntheticRows.Command.Generate
import SyntheticRows.Command.Inspect
import SyntheticRows.Command.Run
import SyntheticRows.Command.Session
import SyntheticRows.Command.Words
import SyntheticRows.Connection.Document
import SyntheticRows.Connection.Redaction
import SyntheticRows.Csv.Export
import SyntheticRows.Csv.Writer
import SyntheticRows.Dependency.Document
import SyntheticRows.Dependency.Order
import SyntheticRows.Dependency.Report
import SyntheticRows.Discovery.Error
import SyntheticRows.Discovery.Schema
import SyntheticRows.FileName
import SyntheticRows.Generator.Basic
import SyntheticRows.Generator.Catalog
import SyntheticRows.Generator.DefaultValue
import SyntheticRows.Generator.Filler
import SyntheticRows.Json.Printer
import SyntheticRows.Json.Reader
import SyntheticRows.Json.Record
import SyntheticRows.Json.Value
import SyntheticRows.Lexicon.Contact
import SyntheticRows.Lexicon.Listing
import SyntheticRows.Lexicon.Lorem
import SyntheticRows.Lexicon.Person
import SyntheticRows.Lexicon.Place
import SyntheticRows.Log.Event
import SyntheticRows.Log.Filter
import SyntheticRows.Main
import SyntheticRows.NameMap
import SyntheticRows.NamedFields
import SyntheticRows.Number.BinaryFraction
import SyntheticRows.Plan.Basic
import SyntheticRows.Plan.Error
import SyntheticRows.Plan.Reference
import SyntheticRows.Plan.Rules
import SyntheticRows.Population.DryRun
import SyntheticRows.Population.Engine
import SyntheticRows.Population.Report
import SyntheticRows.Proofs.Catalog.References
import SyntheticRows.Proofs.Catalog.Supplied
import SyntheticRows.Proofs.ColumnType.Declaration
import SyntheticRows.Proofs.ColumnType.Grammar
import SyntheticRows.Proofs.ColumnType.Harmless
import SyntheticRows.Proofs.ColumnType.LeadingName
import SyntheticRows.Proofs.ColumnType.Spelling
import SyntheticRows.Proofs.ColumnType.WordPairs
import SyntheticRows.Proofs.Connection.Idempotence
import SyntheticRows.Proofs.Connection.Parts
import SyntheticRows.Proofs.Connection.Redaction
import SyntheticRows.Proofs.Csv.Export
import SyntheticRows.Proofs.Csv.ReadBack
import SyntheticRows.Proofs.Dependency.Cycle
import SyntheticRows.Proofs.Dependency.Missing
import SyntheticRows.Proofs.Dependency.Moments
import SyntheticRows.Proofs.Dependency.Order
import SyntheticRows.Proofs.Dependency.Policies
import SyntheticRows.Proofs.Dependency.Stability
import SyntheticRows.Proofs.Dependency.Traversal
import SyntheticRows.Proofs.Dependency.Visit
import SyntheticRows.Proofs.Elementwise
import SyntheticRows.Proofs.Generator.Filler
import SyntheticRows.Proofs.Generator.Length
import SyntheticRows.Proofs.Generator.Numeric
import SyntheticRows.Proofs.Generator.Temporal
import SyntheticRows.Proofs.Json.Artifacts
import SyntheticRows.Proofs.Json.ReadBack
import SyntheticRows.Proofs.Json.Record
import SyntheticRows.Proofs.NameMap
import SyntheticRows.Proofs.Plan.Atomicity
import SyntheticRows.Proofs.Plan.IdleRules
import SyntheticRows.Proofs.Plan.Override
import SyntheticRows.Proofs.Plan.Shape
import SyntheticRows.Proofs.Population.Accounting
import SyntheticRows.Proofs.Population.AllOrNothing
import SyntheticRows.Proofs.Population.Attempt
import SyntheticRows.Proofs.Population.Blocks
import SyntheticRows.Proofs.Population.CallOrder
import SyntheticRows.Proofs.Population.Coverage
import SyntheticRows.Proofs.Population.Executions
import SyntheticRows.Proofs.Population.IdleRules
import SyntheticRows.Proofs.Population.Oblivious
import SyntheticRows.Proofs.Population.Prediction
import SyntheticRows.Proofs.Population.Recording
import SyntheticRows.Proofs.Population.References
import SyntheticRows.Proofs.Population.ReportedBlocks
import SyntheticRows.Proofs.Population.Resolution
import SyntheticRows.Proofs.Population.Sound
import SyntheticRows.Proofs.Population.StoredRows
import SyntheticRows.Proofs.Population.Trace
import SyntheticRows.Proofs.Random.Draw
import SyntheticRows.Proofs.Random.Word
import SyntheticRows.Proofs.Random.Yields
import SyntheticRows.Proofs.Rule.Choice
import SyntheticRows.Proofs.Rule.Integer
import SyntheticRows.Proofs.Rule.Language
import SyntheticRows.Proofs.Rule.Meaning
import SyntheticRows.Proofs.Schema.FirstFault
import SyntheticRows.Proofs.Schema.Validation
import SyntheticRows.Proofs.Sql.FullName
import SyntheticRows.Proofs.Sql.ReadBack
import SyntheticRows.Proofs.Store.History
import SyntheticRows.Proofs.Store.Memory
import SyntheticRows.Proofs.Store.MemoryShape
import SyntheticRows.Proofs.Store.Oblivious
import SyntheticRows.Proofs.Text.Blank
import SyntheticRows.Proofs.Text.ByteOrder
import SyntheticRows.Proofs.Text.Cut
import SyntheticRows.Proofs.Text.InQuotes
import SyntheticRows.Proofs.Text.LowerCase
import SyntheticRows.Proofs.Text.Numeral
import SyntheticRows.Proofs.Workspace
import SyntheticRows.Random.Draw
import SyntheticRows.Random.Fraction
import SyntheticRows.Random.Stream
import SyntheticRows.Rule.Compiler
import SyntheticRows.Rule.Config
import SyntheticRows.Rule.Fault
import SyntheticRows.Rule.File
import SyntheticRows.Rule.JsonSchema
import SyntheticRows.Rule.Reader
import SyntheticRows.Rule.Yaml
import SyntheticRows.Run.Record
import SyntheticRows.Run.Start
import SyntheticRows.Schema.Basic
import SyntheticRows.Schema.Document
import SyntheticRows.Schema.Inspection
import SyntheticRows.Schema.Validation
import SyntheticRows.Server.Basic
import SyntheticRows.Server.Script
import SyntheticRows.Server.ScriptDocument
import SyntheticRows.Sql.Query
import SyntheticRows.Sql.Statement
import SyntheticRows.Store.Basic
import SyntheticRows.Store.Error
import SyntheticRows.Store.Memory
import SyntheticRows.Store.Server
import SyntheticRows.Store.Wrapped
import SyntheticRows.Text.Blank
import SyntheticRows.Text.CaseTable
import SyntheticRows.Text.Cut
import SyntheticRows.Text.InQuotes
import SyntheticRows.Text.LowerCase
import SyntheticRows.Text.Numeral
import SyntheticRows.Text.PrintTable
import SyntheticRows.Text.Quoted
import SyntheticRows.Time.Calendar
import SyntheticRows.Time.Clock
import SyntheticRows.Time.Instant
import SyntheticRows.Toml.Reader
import SyntheticRows.Toml.Table
import SyntheticRows.Toml.Text
import SyntheticRows.Workspace
import SyntheticRows.Yaml.Cell
import SyntheticRows.Yaml.Node
import SyntheticRows.Yaml.Reader
import SyntheticRows.Yaml.Scalar
