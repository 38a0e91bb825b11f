import Quarantine.Text.Blank
import Quarantine.Text.Alphabet
import Quarantine.Text.CategoryLetters
import Quarantine.Text.CategoryMarks
import Quarantine.Text.Case
import Quarantine.Text.Folding
import Quarantine.Pattern.Node
import Quarantine.Pattern.Matcher
import Quarantine.Text.Script
import Quarantine.Text.Property
import Quarantine.Text.Quoted
import Quarantine.Pattern.Reader
import Quarantine.Pattern.Escape
import Quarantine.Pattern.Class
import Quarantine.Pattern.Parser
import Quarantine.Pattern.Size
import Quarantine.Pattern.Replacement
import Quarantine.Decimal.Binary64
import Quarantine.Decimal.Shortest
import Quarantine.Json.Value
import Quarantine.Json.Printer
import Quarantine.Json.Parser
import Quarantine.Digest.Sha2
import Quarantine.Record
import Quarantine.Expr.Token
import Quarantine.Expr.Tree
import Quarantine.Expr.Error
import Quarantine.Expr.Parser
import Quarantine.Expr.Eval
import Quarantine.Log.Masked
import Quarantine.Yaml.Cursor
import Quarantine.Yaml.Scalar
import Quarantine.Yaml.Token
import Quarantine.Yaml.Node
import Quarantine.Log
import Quarantine.Failure
import Quarantine.Rule.Template
import Quarantine.Rule.Table
import Quarantine.Rule.RuleSet
import Quarantine.Verdict
import Quarantine.Instant
import Quarantine.Instant.Parser
import Quarantine.Json.Fields
import Quarantine.Routing
import Quarantine.Metrics.Event
import Quarantine.Metrics.Entry
import Quarantine.Metrics.Totals
import Quarantine.Selection
import Quarantine.Processing
import Quarantine.Text.Split
import Quarantine.Text.Width
import Quarantine.Display.BoxTable
import Quarantine.Display.Theme
import Quarantine.Pipeline.Report
import Quarantine.Display.Reports
import Quarantine.Ascending
import Quarantine.Storage.SystemError
import Quarantine.Storage.Path
import Quarantine.Storage.Action
import Quarantine.Storage.Disk
import Quarantine.Storage.Fault
import Quarantine.Storage.Job
import Quarantine.Storage.Rows
import Quarantine.Storage.PartTable
import Quarantine.Storage.Checkpoint
import Quarantine.Storage.Source
import Quarantine.Storage.Layout
import Quarantine.Pipeline.Batch
import Quarantine.Pipeline.Runner
import Quarantine.Decimal.Word
import Quarantine.CommandLine.Setting
import Quarantine.CommandLine.Reading
import Quarantine.CommandLine.Arguments
import Quarantine.Metrics.Report
import Quarantine.CommandLine.Variables
import Quarantine.CommandLine.Session
import Quarantine.CommandLine.Commands
import Quarantine.CommandLine.Program
import Quarantine.Main
import Quarantine.Json.Structure
import Quarantine.Proofs.CommandLine.Reprocess
import Quarantine.Proofs.Pipeline.Attempts
import Quarantine.Proofs.Pipeline.FailedStep
import Quarantine.Proofs.Pipeline.Leftovers
import Quarantine.Proofs.Pipeline.ReadBack
import Quarantine.Proofs.Pipeline.Hiding
import Quarantine.Proofs.Expr.Grammar
import Quarantine.Proofs.Expr.Quotation
import Quarantine.Proofs.Expr.Renaming
import Quarantine.Proofs.Rule.Substitution
import Quarantine.Proofs.Disclosure
import Quarantine.Proofs.Pipeline.Served
import Quarantine.Proofs.Pipeline.Durability
import Quarantine.Proofs.Pipeline.SelectionHistory
import Quarantine.Proofs.Pipeline.OwnParts
import Quarantine.Proofs.Pipeline.SingleBatch
import Quarantine.Proofs.CommandLine.Outcome
import Quarantine.Proofs.Pipeline.Orderly
import Quarantine.Proofs.CommandLine.Success
import Quarantine.Proofs.CommandLine.Extension
import Quarantine.Proofs.Storage.Directories
import Quarantine.Proofs.Pipeline.Draining
import Quarantine.Proofs.Pipeline.Resumption
import Quarantine.Proofs.CommandLine.Resumption
import Quarantine.Proofs.Rule.Compilation
import Quarantine.Proofs.Pipeline.Passthrough
import Quarantine.Proofs.Pipeline.RecordOrder
import Quarantine.Proofs.Pipeline.ColumnOrder
import Quarantine.Proofs.Rewriting
import Quarantine.Proofs.Masking
import Quarantine.Proofs.Metrics.Decoding
import Quarantine.Proofs.Rule.Detection
import Quarantine.Proofs.Rule.Sight
import Quarantine.Proofs.Metrics.Details
import Quarantine.Proofs.Metrics.Windows
import Quarantine.Proofs.Storage.Store
import Quarantine.Proofs.Storage.PartNames
import Quarantine.Proofs.Selection
import Quarantine.Proofs.Metrics.Alignment
import Quarantine.Proofs.Expr.Substring
import Quarantine.Proofs.Storage.Inference
import Quarantine.Proofs.Storage.Persistence
import Quarantine.Proofs.Expr.Places
import Quarantine.Proofs.CommandLine.Metrics
