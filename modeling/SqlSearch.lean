import SqlSearch.Command.Help
import SqlSearch.Command.Line
import SqlSearch.Command.Live
import SqlSearch.Command.Run
import SqlSearch.Command.Setup
import SqlSearch.Command.Spec
import SqlSearch.Config.Basic
import SqlSearch.Config.Dotenv
import SqlSearch.Config.Load
import SqlSearch.Config.Profile
import SqlSearch.Config.Secret
import SqlSearch.Config.Value
import SqlSearch.Csv.Field
import SqlSearch.Decimal.Format
import SqlSearch.Decimal.Nearest
import SqlSearch.Decimal.Read
import SqlSearch.Decimal.Shortest
import SqlSearch.Engine.Client
import SqlSearch.Engine.Failure
import SqlSearch.Engine.Settings
import SqlSearch.Export.Sink
import SqlSearch.Host.Basic
import SqlSearch.Host.Files
import SqlSearch.Host.Memory
import SqlSearch.Host.Path
import SqlSearch.Json.Basic
import SqlSearch.Json.Field
import SqlSearch.Json.Reader
import SqlSearch.Json.Record
import SqlSearch.Json.Syntax
import SqlSearch.Json.Writer
import SqlSearch.Logging
import SqlSearch.Main
import SqlSearch.Proofs.ConditionParsing
import SqlSearch.Proofs.ConditionReading
import SqlSearch.Proofs.ConditionShape
import SqlSearch.Proofs.Lexeme
import SqlSearch.Proofs.NormalSplit
import SqlSearch.Proofs.QueryString
import SqlSearch.Proofs.ScriptSplitting
import SqlSearch.Proofs.StatementParsing
import SqlSearch.Proofs.WrittenWords
import SqlSearch.Query.Condition
import SqlSearch.Query.Parser
import SqlSearch.Query.Request
import SqlSearch.Query.Script
import SqlSearch.Query.Statement
import SqlSearch.Query.Token
import SqlSearch.Response.Document
import SqlSearch.Response.Outcome
import SqlSearch.Response.Render
import SqlSearch.Response.Wire
import SqlSearch.Schema.Cache
import SqlSearch.Schema.Keywords
import SqlSearch.Schema.Mapping
import SqlSearch.Scripts.Scan
import SqlSearch.Session
import SqlSearch.Shell.Complete
import SqlSearch.Shell.History
import SqlSearch.Shell.Loop
import SqlSearch.Stats.Metrics
import SqlSearch.Stats.Store
import SqlSearch.Telemetry.Endpoint
import SqlSearch.Telemetry.Settings
import SqlSearch.Text.Blank
import SqlSearch.Text.Digit
import SqlSearch.Text.Letter
import SqlSearch.Text.Lower
import SqlSearch.Text.Normal
import SqlSearch.Text.Normal.Tables
import SqlSearch.Text.Printable
import SqlSearch.Text.Quoted
import SqlSearch.Text.RangeTable
import SqlSearch.Text.Utf8
import SqlSearch.Url.Basic
import SqlSearch.Url.Escape
import SqlSearch.Yaml.Node
import SqlSearch.Yaml.Read
import SqlSearch.Proofs.Translation
import SqlSearch.Proofs.LazyCache
import SqlSearch.Proofs.SearchPipeline
import SqlSearch.Proofs.ResponseSections
import SqlSearch.Proofs.CsvRecords
import SqlSearch.Proofs.RequestBody
import SqlSearch.Proofs.LikeLanguage
import SqlSearch.Proofs.ErrorPositions
import SqlSearch.Proofs.JsonTokens
import SqlSearch.Proofs.JsonValues
import SqlSearch.Proofs.ObjectDecoding
import SqlSearch.Proofs.ByteOrder
import SqlSearch.Proofs.CompletionWords
import SqlSearch.Proofs.WordCompletion
import SqlSearch.Proofs.SinkDelivery
import SqlSearch.Proofs.FacetOrder
import SqlSearch.Proofs.MappingLayout
import SqlSearch.Proofs.HitRows
import SqlSearch.Proofs.RetryLoop
import SqlSearch.Proofs.Backoff
import SqlSearch.Proofs.WrittenJson
import SqlSearch.Proofs.EngineReplies
import SqlSearch.Proofs.TrailingSlashes
import SqlSearch.Proofs.AuthModes
import SqlSearch.Proofs.CountTable
import SqlSearch.Proofs.CountStore
import SqlSearch.Proofs.CleanPaths
import SqlSearch.Proofs.DirectoryWalk
import SqlSearch.Proofs.ScriptScan
import SqlSearch.Proofs.ResourceAttributes
import SqlSearch.Proofs.ScriptRun
import SqlSearch.Proofs.TokenTiling
import SqlSearch.Proofs.UrlEscapes
import SqlSearch.Proofs.UrlHosts
import SqlSearch.Proofs.WrittenUrls
import SqlSearch.Proofs.SignalPaths
