import ChangeFeed.Backoff
import ChangeFeed.Binary64
import ChangeFeed.Channel
import ChangeFeed.Document
import ChangeFeed.Error
import ChangeFeed.Event
import ChangeFeed.Exchange.Record
import ChangeFeed.Exchange.Report
import ChangeFeed.KnownState
import ChangeFeed.Mailbox
import ChangeFeed.MemoryLog
import ChangeFeed.Metrics
import ChangeFeed.Node
import ChangeFeed.Poller
import ChangeFeed.Proofs.Barrier
import ChangeFeed.Proofs.Batches
import ChangeFeed.Proofs.Coverage
import ChangeFeed.Proofs.Cycles
import ChangeFeed.Proofs.Delivery
import ChangeFeed.Proofs.Desk
import ChangeFeed.Proofs.Exactness
import ChangeFeed.Proofs.Gap
import ChangeFeed.Proofs.HandOver
import ChangeFeed.Proofs.History
import ChangeFeed.Proofs.Interest
import ChangeFeed.Proofs.KnownTable
import ChangeFeed.Proofs.LostPlace
import ChangeFeed.Proofs.Marks
import ChangeFeed.Proofs.OnePoll
import ChangeFeed.Proofs.Progress
import ChangeFeed.Proofs.Replay
import ChangeFeed.Proofs.Request
import ChangeFeed.Proofs.Run
import ChangeFeed.Proofs.Sequential
import ChangeFeed.Proofs.Stage
import ChangeFeed.Proofs.Standing
import ChangeFeed.Proofs.Subscribers
import ChangeFeed.Proofs.System
import ChangeFeed.Proofs.Transparency
import ChangeFeed.Reader
import ChangeFeed.Reconcile
import ChangeFeed.Registry
import ChangeFeed.Revisions
import ChangeFeed.Script
import ChangeFeed.Service.Definition
import ChangeFeed.Service.Host
import ChangeFeed.Service.Manager
import ChangeFeed.Service.Runner
import ChangeFeed.Service.Spec
import ChangeFeed.Service.Status
import ChangeFeed.Settings
import ChangeFeed.Settings.Decode
import ChangeFeed.Settings.Files
import ChangeFeed.Settings.Layer
import ChangeFeed.Settings.Load
import ChangeFeed.Settings.Path
import ChangeFeed.Settings.Variables
import ChangeFeed.Shell.Account
import ChangeFeed.Shell.Arithmetic
import ChangeFeed.Shell.Builtin
import ChangeFeed.Shell.Builtin.Arguments
import ChangeFeed.Shell.Builtin.Directory
import ChangeFeed.Shell.Builtin.Jobs
import ChangeFeed.Shell.Builtin.Kill
import ChangeFeed.Shell.Builtin.Name
import ChangeFeed.Shell.Builtin.Option
import ChangeFeed.Shell.Builtin.Output
import ChangeFeed.Shell.Builtin.Trap
import ChangeFeed.Shell.Builtin.Variable
import ChangeFeed.Shell.Condition
import ChangeFeed.Shell.Decimal
import ChangeFeed.Shell.Evaluation
import ChangeFeed.Shell.Expansion
import ChangeFeed.Shell.Format
import ChangeFeed.Shell.Glob
import ChangeFeed.Shell.Grammar
import ChangeFeed.Shell.JobTable
import ChangeFeed.Shell.Number
import ChangeFeed.Shell.Pattern
import ChangeFeed.Shell.Program
import ChangeFeed.Shell.Reader
import ChangeFeed.Shell.Redirection
import ChangeFeed.Shell.Run
import ChangeFeed.Shell.Runner
import ChangeFeed.Shell.Session
import ChangeFeed.Shell.Signal
import ChangeFeed.Shell.Splitting
import ChangeFeed.Shell.Subshell
import ChangeFeed.Shell.Syntax
import ChangeFeed.Shell.Tree
import ChangeFeed.Shell.World
import ChangeFeed.Source
import ChangeFeed.Subscription
import ChangeFeed.Sync
import ChangeFeed.Text.Blank
import ChangeFeed.Text.Case
import ChangeFeed.Text.Lines
import ChangeFeed.Text.Printable
import ChangeFeed.Text.Quoted
import ChangeFeed.Text.Scan
import ChangeFeed.Text.Utf8
import ChangeFeed.Toml.Document
import ChangeFeed.Toml.Literal
import ChangeFeed.Toml.LongText
import ChangeFeed.Toml.Moment
import ChangeFeed.Toml.Space
import ChangeFeed.Toml.Table
import ChangeFeed.Value
import ChangeFeed.WatchKey
import ChangeFeed.Watcher
import ChangeFeed.Word
import ChangeFeed.Proofs.Solo
import ChangeFeed.Proofs.Independence
import ChangeFeed.Proofs.Retention
import ChangeFeed.Proofs.Priming
import ChangeFeed.Proofs.Termination
import ChangeFeed.Proofs.Answers
import ChangeFeed.Proofs.Receipts
import ChangeFeed.Proofs.CatchUp
import ChangeFeed.Proofs.Registration
import ChangeFeed.Proofs.Closing
import ChangeFeed.Proofs.Snapshots
import ChangeFeed.Proofs.Courses
import ChangeFeed.Proofs.Attempts
import ChangeFeed.Proofs.Blanket
import ChangeFeed.Proofs.Conservation
import ChangeFeed.Proofs.Maximum
import ChangeFeed.Proofs.Removal
import ChangeFeed.Proofs.DefinitionLines
import ChangeFeed.Proofs.CommandParts
import ChangeFeed.Proofs.Delays
import ChangeFeed.Proofs.Layers
import ChangeFeed.Proofs.PartialSettings
import ChangeFeed.Proofs.MarkCount
import ChangeFeed.Proofs.Reads
import ChangeFeed.Proofs.KeptPlace
import ChangeFeed.Proofs.JobLines
