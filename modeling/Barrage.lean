import Barrage.Calendar
import Barrage.Command.Arguments
import Barrage.Command.Complaint
import Barrage.Command.Help
import Barrage.Command.Order
import Barrage.Command.Perform
import Barrage.Dict
import Barrage.Disk
import Barrage.Document.Plan
import Barrage.Document.Result
import Barrage.Document.Script
import Barrage.Export.K6
import Barrage.Found
import Barrage.FreshId
import Barrage.History
import Barrage.Instant
import Barrage.Instant.Reading
import Barrage.Json.Fault
import Barrage.Json.Reader
import Barrage.Json.Skip
import Barrage.Json.Token
import Barrage.Json.Value
import Barrage.Load.Aggregators
import Barrage.Load.Engine
import Barrage.Load.Latency
import Barrage.Load.Metrics
import Barrage.Load.Network
import Barrage.Load.Outcome
import Barrage.Load.Redirect
import Barrage.Load.Result
import Barrage.Load.Run
import Barrage.Load.Validation
import Barrage.Main
import Barrage.Number.Binary64
import Barrage.Number.Decimals
import Barrage.Plan
import Barrage.Program
import Barrage.Proofs.Addresses
import Barrage.Proofs.Bindings
import Barrage.Proofs.Breakdowns
import Barrage.Proofs.ByteOrder
import Barrage.Proofs.Calendar
import Barrage.Proofs.Calls
import Barrage.Proofs.Colours
import Barrage.Proofs.Confinement
import Barrage.Proofs.CrashIsolation
import Barrage.Proofs.Creations
import Barrage.Proofs.Deadline
import Barrage.Proofs.Directories
import Barrage.Proofs.DistinctCalls
import Barrage.Proofs.Encodings
import Barrage.Proofs.Endings
import Barrage.Proofs.Exchanges
import Barrage.Proofs.ExportedRequests
import Barrage.Proofs.Exports
import Barrage.Proofs.FirstFaults
import Barrage.Proofs.Histories
import Barrage.Proofs.HistoryParts
import Barrage.Proofs.Instants
import Barrage.Proofs.Interleavings
import Barrage.Proofs.Invariant
import Barrage.Proofs.JoinedPaths
import Barrage.Proofs.Layers
import Barrage.Proofs.Means
import Barrage.Proofs.Numerals
import Barrage.Proofs.Percentiles
import Barrage.Proofs.Reading
import Barrage.Proofs.Recording
import Barrage.Proofs.Removals
import Barrage.Proofs.Reopening
import Barrage.Proofs.ResultDocuments
import Barrage.Proofs.ResultFiles
import Barrage.Proofs.Rounding
import Barrage.Proofs.RunCourses
import Barrage.Proofs.RunEffects
import Barrage.Proofs.RunIds
import Barrage.Proofs.RunOrders
import Barrage.Proofs.ScriptDocuments
import Barrage.Proofs.ScriptFiles
import Barrage.Proofs.ScriptStores
import Barrage.Proofs.Sessions
import Barrage.Proofs.SettingsDocuments
import Barrage.Proofs.Snapshots
import Barrage.Proofs.Statements
import Barrage.Proofs.Ties
import Barrage.Proofs.Tokens
import Barrage.Proofs.Totals
import Barrage.Proofs.Traffic
import Barrage.Proofs.Trimming
import Barrage.Proofs.Turns
import Barrage.Script
import Barrage.Script.OfUrl
import Barrage.Settings
import Barrage.Store.Fault
import Barrage.Store.Results
import Barrage.Store.Scripts
import Barrage.Summary
import Barrage.Text.Ascii
import Barrage.Text.Blank
import Barrage.Text.Debug
import Barrage.Text.Decimal
import Barrage.Text.Percent
import Barrage.Text.Symbol
import Barrage.Toml.Decode
import Barrage.Toml.Reader
import Barrage.Toml.Scalar
import Barrage.Toml.Value
import Barrage.Unicode.Joining
import Barrage.Unicode.Mapping
import Barrage.Unicode.Marks
import Barrage.Unicode.Ranges
import Barrage.Unicode.Unprintable
import Barrage.Url.Address
import Barrage.Url.Basic
import Barrage.Url.Domain
import Barrage.Url.Punycode
import Barrage.Url.Reader
import Barrage.Url.Reference
import Barrage.Web.MediaType
import Barrage.Web.Response
import Barrage.Web.Router
import Barrage.Wire
import Barrage.Workspace
import Barrage.World.Client
import Barrage.World.Files
import Barrage.World.Server
