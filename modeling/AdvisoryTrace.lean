import AdvisoryTrace.Text.Blank
import AdvisoryTrace.Text.Printable
import AdvisoryTrace.Text.RangeMap
import AdvisoryTrace.Text.Normalization
import AdvisoryTrace.Text.Bidi
import AdvisoryTrace.Text.Joining
import AdvisoryTrace.Net.Punycode
import AdvisoryTrace.Net.Idna.Mapping
import AdvisoryTrace.Net.Idna
import AdvisoryTrace.Text.Quoted
import AdvisoryTrace.Decimal.Shortest
import AdvisoryTrace.Json.Value
import AdvisoryTrace.Json.Writer
import AdvisoryTrace.Json.Reader
import AdvisoryTrace.Json.Decode
import AdvisoryTrace.Schema
import AdvisoryTrace.Chain.Basic
import AdvisoryTrace.Chain.Mermaid
import AdvisoryTrace.Double
import AdvisoryTrace.Failure
import AdvisoryTrace.Record
import AdvisoryTrace.Verdict
import AdvisoryTrace.Wire
import AdvisoryTrace.Export.Render
import AdvisoryTrace.Text.Identifier
import AdvisoryTrace.Text.Alphanumeric
import AdvisoryTrace.Source.Token
import AdvisoryTrace.Source.Cursor
import AdvisoryTrace.Source.Grammar
import AdvisoryTrace.Source.Nesting
import AdvisoryTrace.Source.CallGraph
import AdvisoryTrace.Disk.Path
import AdvisoryTrace.Disk.Basic
import AdvisoryTrace.Source.Folder
import AdvisoryTrace.Export.File
import AdvisoryTrace.Toml.Value
import AdvisoryTrace.Toml.Document
import AdvisoryTrace.Toml.Fault
import AdvisoryTrace.Toml.Reader
import AdvisoryTrace.Catalog
import AdvisoryTrace.Repository.CacheName
import AdvisoryTrace.Repository.Prepared
import AdvisoryTrace.Model.Reply
import AdvisoryTrace.Store.Call
import AdvisoryTrace.Store.Memory
import AdvisoryTrace.Store.Database
import AdvisoryTrace.Store
import AdvisoryTrace.Store.Interleaving
import AdvisoryTrace.Pipeline
import AdvisoryTrace.Worker
import AdvisoryTrace.CommandLine.Similar
import AdvisoryTrace.CommandLine.Command
import AdvisoryTrace.CommandLine.Refusal
import AdvisoryTrace.CommandLine.Parse
import AdvisoryTrace.Net.SocketAddr
import AdvisoryTrace.Net.Url
import AdvisoryTrace.Daemon.Config
import AdvisoryTrace.Daemon.Database
import AdvisoryTrace.Client.Args
import AdvisoryTrace.Text.Utf8
import AdvisoryTrace.Program
import AdvisoryTrace.Http.Target
import AdvisoryTrace.Http.Message
import AdvisoryTrace.Git.Regex
import AdvisoryTrace.Git.ObjectId
import AdvisoryTrace.Git.Repo
import AdvisoryTrace.Git.Remote
import AdvisoryTrace.Git.Options
import AdvisoryTrace.Git.Commands
import AdvisoryTrace.Git.Revision
import AdvisoryTrace.Git.Tool
import AdvisoryTrace.Repository.Cache
import AdvisoryTrace.Model.Chat
import AdvisoryTrace.Client.Call
import AdvisoryTrace.Client.Program
import AdvisoryTrace.Daemon.Queue
import AdvisoryTrace.Daemon.Service
import AdvisoryTrace.Daemon.Dispatch
import AdvisoryTrace.Daemon.Startup
import AdvisoryTrace.Daemon.EnvFile
import AdvisoryTrace.Daemon.Program
import AdvisoryTrace.Main
import AdvisoryTrace.Proofs.SettleOnce
import AdvisoryTrace.Proofs.StoreRefinement
import AdvisoryTrace.Proofs.StoreHistory
import AdvisoryTrace.Proofs.StoreLinearizability
import AdvisoryTrace.Proofs.DispatchSlices
import AdvisoryTrace.Proofs.CompletesOnce
import AdvisoryTrace.Proofs.DispatchSessions
import AdvisoryTrace.Proofs.ChainRoundTrip
import AdvisoryTrace.Proofs.SettledPrefix
import AdvisoryTrace.Proofs.ReadSteps
import AdvisoryTrace.Proofs.ReadScalars
import AdvisoryTrace.Proofs.ReadBack
import AdvisoryTrace.Proofs.WriteLayout
import AdvisoryTrace.Proofs.RecordWire
import AdvisoryTrace.Proofs.CacheReuse
import AdvisoryTrace.Proofs.MermaidCallers
import AdvisoryTrace.Proofs.WalkOrder
import AdvisoryTrace.Proofs.BuiltGraph
import AdvisoryTrace.Proofs.WalkShape
import AdvisoryTrace.Proofs.WalkCoverage
import AdvisoryTrace.Proofs.ExactDoubles
import AdvisoryTrace.Proofs.Agreement
import AdvisoryTrace.Proofs.ExportedFlowchart
import AdvisoryTrace.Proofs.NestingDepth
import AdvisoryTrace.Proofs.PipelineRuns
import AdvisoryTrace.Proofs.CallTreeWalk
import AdvisoryTrace.Proofs.FolderTrace
import AdvisoryTrace.Proofs.StoreChecks
import AdvisoryTrace.Proofs.SourceOrder
import AdvisoryTrace.Proofs.ReplyParsing
import AdvisoryTrace.Proofs.GitConfinement
import AdvisoryTrace.Proofs.CacheConfinement
import AdvisoryTrace.Proofs.DiskLayout
import AdvisoryTrace.Proofs.GitRevisions
import AdvisoryTrace.Proofs.GitCheckout
import AdvisoryTrace.Proofs.CacheCheckout
import AdvisoryTrace.Proofs.LastOutcome
