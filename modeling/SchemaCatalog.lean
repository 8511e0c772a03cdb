import SchemaCatalog.Assembly
import SchemaCatalog.Cancellation
import SchemaCatalog.Canned
import SchemaCatalog.Cli.Arguments
import SchemaCatalog.Cli.Command
import SchemaCatalog.Cli.Help
import SchemaCatalog.Cli.Run
import SchemaCatalog.Column
import SchemaCatalog.Console.Grid
import SchemaCatalog.Decimal.Shortest
import SchemaCatalog.Engine
import SchemaCatalog.Error
import SchemaCatalog.ForeignKey
import SchemaCatalog.Host
import SchemaCatalog.InformationSchema
import SchemaCatalog.ItemStream
import SchemaCatalog.Json.Basic
import SchemaCatalog.Json.CatalogValue
import SchemaCatalog.Json.Model
import SchemaCatalog.Json.Number
import SchemaCatalog.Json.Reader
import SchemaCatalog.Json.Record
import SchemaCatalog.Json.Setup
import SchemaCatalog.Lookup
import SchemaCatalog.Main
import SchemaCatalog.Naming
import SchemaCatalog.Postgres.Connection
import SchemaCatalog.Postgres.Extraction
import SchemaCatalog.Postgres.Wire
import SchemaCatalog.Proofs.Assembling
import SchemaCatalog.Proofs.ByteOrder
import SchemaCatalog.Proofs.CancelledRun
import SchemaCatalog.Proofs.CannedAnswers
import SchemaCatalog.Proofs.Construction
import SchemaCatalog.Proofs.Outcomes
import SchemaCatalog.Proofs.OwnRows
import SchemaCatalog.Proofs.Reading
import SchemaCatalog.Proofs.Runs
import SchemaCatalog.Proofs.StatementsAsked
import SchemaCatalog.Proofs.TableInvariant
import SchemaCatalog.Query
import SchemaCatalog.Registry
import SchemaCatalog.Row
import SchemaCatalog.RowSource
import SchemaCatalog.Settings
import SchemaCatalog.SettingsFile
import SchemaCatalog.SortedSet
import SchemaCatalog.SqlServer.Connection
import SchemaCatalog.SqlServer.Extraction
import SchemaCatalog.SqlServer.Wire
import SchemaCatalog.Sqlite.Address
import SchemaCatalog.Sqlite.Binding
import SchemaCatalog.Sqlite.Database
import SchemaCatalog.Sqlite.Extraction
import SchemaCatalog.Table
import SchemaCatalog.TableName
import SchemaCatalog.TableStream
import SchemaCatalog.Text.Case
import SchemaCatalog.Text.CaseRanges
import SchemaCatalog.Text.Hex
import SchemaCatalog.Text.Utf8
import SchemaCatalog.Text.Width
import SchemaCatalog.Text.WidthRanges
import SchemaCatalog.Text.Word
import SchemaCatalog.Text.WordRanges
import SchemaCatalog.Toml.Document
import SchemaCatalog.Toml.Parser
import SchemaCatalog.Toml.Scalar
import SchemaCatalog.Toml.Text
import SchemaCatalog.Value
import SchemaCatalog.Proofs.ReportedKeys
import SchemaCatalog.Proofs.RowOrder
import SchemaCatalog.Proofs.SharedCatalog
import SchemaCatalog.Proofs.CommonModel
import SchemaCatalog.Proofs.WrittenJson
import SchemaCatalog.Proofs.WrittenTables
import SchemaCatalog.Proofs.LoadingStages
import SchemaCatalog.Proofs.RowVersion
import SchemaCatalog.Proofs.DescribedTables
import SchemaCatalog.Proofs.ImplicitParents
import SchemaCatalog.Proofs.BuildableTables
import SchemaCatalog.Proofs.ConstraintGroups
import SchemaCatalog.Proofs.ConsistentData
import SchemaCatalog.Proofs.ColumnLookup
import SchemaCatalog.Proofs.ExtendedTables
import SchemaCatalog.Proofs.CollectedStreams
import SchemaCatalog.Proofs.CompleteRun
import SchemaCatalog.Proofs.Sessions
import SchemaCatalog.Proofs.CancelledSession
import SchemaCatalog.Sqlite.GeneratedColumn
import SchemaCatalog.Text.Slice
import SchemaCatalog.Proofs.Placeholders
import SchemaCatalog.Proofs.TextBytes
import SchemaCatalog.Proofs.WireValues
import SchemaCatalog.Proofs.GeneratedMarker
import SchemaCatalog.Proofs.TrimmedText
import SchemaCatalog.Proofs.MarkedTypes
import SchemaCatalog.Proofs.StandaloneWords
import SchemaCatalog.Proofs.EmissionOrder
