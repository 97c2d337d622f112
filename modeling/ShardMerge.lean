import ShardMerge.Catalog.Basic
import ShardMerge.Catalog.Layout
import ShardMerge.Catalog.Memory
import ShardMerge.Catalog.Warehouse
import ShardMerge.Change.Basic
import ShardMerge.Change.Decision
import ShardMerge.Change.Feed
import ShardMerge.Change.Live
import ShardMerge.Change.Wire
import ShardMerge.Column.Native
import ShardMerge.Column.Type
import ShardMerge.Column.Widening
import ShardMerge.Command.Arguments
import ShardMerge.Command.CheckChange
import ShardMerge.Command.CommandLine
import ShardMerge.Command.CommandLine.CommandName
import ShardMerge.Command.CommandLine.Parameter
import ShardMerge.Command.CommandLine.Words
import ShardMerge.Command.Program
import ShardMerge.Command.Render
import ShardMerge.Command.Run
import ShardMerge.Dict
import ShardMerge.Error
import ShardMerge.Files.Host
import ShardMerge.Files.Path
import ShardMerge.Files.Tree
import ShardMerge.Journal
import ShardMerge.Json.Basic
import ShardMerge.Json.Literal
import ShardMerge.Json.Parser
import ShardMerge.Json.Printer
import ShardMerge.Json.Record
import ShardMerge.Main
import ShardMerge.Pattern.Glob
import ShardMerge.Pattern.Matcher
import ShardMerge.Pattern.Regex.Brackets
import ShardMerge.Pattern.Regex.CharClass
import ShardMerge.Pattern.Regex.Escape
import ShardMerge.Pattern.Regex.Match
import ShardMerge.Pattern.Regex.Part
import ShardMerge.Pattern.Regex.Reader
import ShardMerge.Pattern.Regex.Size
import ShardMerge.Pattern.Regex.Syntax
import ShardMerge.Proofs.Lists
import ShardMerge.Proofs.Schema.Declaration
import ShardMerge.Proofs.Schema.Held
import ShardMerge.Proofs.Schema.Merge
import ShardMerge.Schema.Merge
import ShardMerge.Schema.Source
import ShardMerge.Schema.Table
import ShardMerge.Schema.Target
import ShardMerge.Schema.Unified
import ShardMerge.Schema.Wire
import ShardMerge.Source.Basic
import ShardMerge.Source.Credentials
import ShardMerge.Source.Open
import ShardMerge.Source.Pool
import ShardMerge.Source.Raw
import ShardMerge.Source.Server
import ShardMerge.Source.Settings
import ShardMerge.Source.Snapshot
import ShardMerge.Sync.Config
import ShardMerge.Sync.Discovery
import ShardMerge.Sync.Plan
import ShardMerge.Sync.Planner
import ShardMerge.Text.Blank
import ShardMerge.Text.Decimal
import ShardMerge.Text.Lowercase
import ShardMerge.Text.Padding
import ShardMerge.Text.Quoted
import ShardMerge.Text.Split
import ShardMerge.Text.Unicode.Case
import ShardMerge.Text.Unicode.Digit
import ShardMerge.Text.Unicode.Ranges
import ShardMerge.Text.Unicode.Unprintable
import ShardMerge.Text.Unicode.Word
import ShardMerge.Time.Span
import ShardMerge.Time.Timestamp
import ShardMerge.Url.Basic
import ShardMerge.Url.Host
import ShardMerge.Url.Percent
import ShardMerge.Url.Punycode
import ShardMerge.Url.Query
import ShardMerge.Url.Reader
import ShardMerge.Proofs.Change.Decision
import ShardMerge.Proofs.Change.Run
import ShardMerge.Proofs.Change.Redelivery
import ShardMerge.Proofs.Change.Remerge
import ShardMerge.Proofs.Change.Additions
import ShardMerge.Proofs.Computation
import ShardMerge.Proofs.Schema.Room
import ShardMerge.Proofs.Catalog.Memory
import ShardMerge.Proofs.Sync.Discovery
import ShardMerge.Proofs.Catalog.Replay
import ShardMerge.Proofs.Sync.Planner
import ShardMerge.Proofs.Sync.Replanning
import ShardMerge.Proofs.Catalog.Session
import ShardMerge.Proofs.Sync.Effect
import ShardMerge.Proofs.Files.Directories
import ShardMerge.Proofs.Catalog.Lookup
import ShardMerge.Proofs.Sync.DryRun
import ShardMerge.Proofs.Command.DryRun
import ShardMerge.Proofs.Catalog.Refinement
import ShardMerge.Proofs.Column.Values
import ShardMerge.Proofs.Sync.Created
import ShardMerge.Proofs.Catalog.Interleaving
import ShardMerge.Proofs.Command.Replay
import ShardMerge.Proofs.Schema.SourceOrder
import ShardMerge.Proofs.Wire
import ShardMerge.Proofs.Schema.Conflict
import ShardMerge.Proofs.Command.Frame
import ShardMerge.Proofs.Source.Secrecy
import ShardMerge.Proofs.Schema.TableKey
import ShardMerge.Proofs.Change.Acceptance
import ShardMerge.Proofs.Pattern.Glob
import ShardMerge.Proofs.Pattern.Whole
import ShardMerge.Proofs.Column.Declared
import ShardMerge.Proofs.Source.Metadata
import ShardMerge.Proofs.Source.Parameters
import ShardMerge.Proofs.Sync.Discovered
import ShardMerge.Proofs.Catalog.VersionNames
import ShardMerge.Proofs.Catalog.ReadBack
import ShardMerge.Proofs.Catalog.Confinement
import ShardMerge.Proofs.Source.NameLimits
import ShardMerge.Proofs.Text.Lowercase
import ShardMerge.Proofs.Column.Spelling
import ShardMerge.Proofs.Column.Order
import ShardMerge.Proofs.Url.Percent
import ShardMerge.Proofs.Url.Address
import ShardMerge.Proofs.Url.Host
import ShardMerge.Proofs.Url.Path
import ShardMerge.Proofs.Url.Settled
import ShardMerge.Proofs.Source.Credentials
