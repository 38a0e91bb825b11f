import Quarantine.CommandLine.Arguments
import Quarantine.CommandLine.Session
import Quarantine.Display.Reports
import Quarantine.Pipeline.Runner
import Quarantine.Rule.Table

/-!
# The commands

What the four commands do: process the pending inputs, list the rules, sum up the metrics, and
redact the whole quarantine again.  The columns are those given, or those of a first record: of
the next input for a run, of an input for the list, of the quarantine for the redaction.
-/

namespace Quarantine.CommandLine

open Quarantine.Json Session

/-- How many of something, as messages put it. -/
def counted (n : Nat) (what : String) : String := toString n ++ " " ++ what

/-! ## Rules and columns -/

namespace RuleChoice

/-- The rule table. -/
def load (c : RuleChoice) : Session RuleTable :=
  match c.table with
  | none => pure .standard
  | some path => do
    let text ← perform (behind ("Failed to read rule table " ++ path.text)) (Job.readText path)
    match RuleTable.ofYaml text with
    | .ok table => pure table
    | .error e => throw (.failed ["Failed to load rule table " ++ path.text, e.message])

/-- The columns that are given, or else those that were inferred. -/
def columnsOr (c : RuleChoice) (inferred : Option (List String)) : List String :=
  if c.columns.isEmpty then inferred.getD [] else c.columns

/-- The rules of the table for some columns. -/
def compile (c : RuleChoice) (columns : List String) : Session RuleSet := do
  check (inContext "Failed to compile rule table") (RuleSet.compile (← c.load) columns)

end RuleChoice

def loadCheckpoint (layout : Layout) : Session Checkpoint :=
  perform (inContext "Failed to read checkpoint") (Checkpoint.load layout.checkpoint)

/-- The committed events. -/
def loadHistory (layout : Layout) : Session (List Event) := do
  let c ← loadCheckpoint layout
  perform (inContext "Failed to read metrics table")
    (layout.metrics.readCommitted Event.parse? c.batches)

/-! ## Processing -/

namespace RunCommand

/-- The source, and the columns of its next record if none are given. -/
def source (c : RunCommand) (layout : Layout) : Session (Source × Option (List String)) := do
  let source := Source.ofDirectory c.inputPath
  if c.rules.columns.isEmpty then
    let (columns, source) ← act (source.inferColumns (← loadCheckpoint layout))
    return (source, ← check (inContext "Failed to infer columns") columns)
  else return (source, none)

def options (c : RunCommand) : Options where
  partitions := c.partitions.getD 1
  frozen := c.frozen
  time := none

/-- The summary as it is written. -/
def document (c : RunCommand) (s : RunSummary) : String :=
  if c.json then s.toValue.renderIndented else s.table.render

def perform (c : RunCommand) : Session Unit := do
  match ← act (Action.ask (.inspect c.inputPath)) with
  | .ok .directory => pure ()
  | _ => fail ("Input path " ++ c.inputPath.text ++ " is not a directory")
  let layout : Layout := ⟨c.tablePath⟩
  let (source, inferred) ← c.source layout
  let columns := c.rules.columnsOr inferred
  if columns.isEmpty then
    tell .warning "No columns given and no pending input to infer them from."
  let rules ← c.rules.compile columns
  if !rules.invalid.isEmpty then
    tell .warning (counted rules.invalid.length
      "rule(s) have invalid expressions; records will be quarantined by them.")
  let runner ← Session.perform (inContext ("Failed to open table root " ++ c.tablePath.text))
    (Runner.open? rules source layout c.options)
  let (summary, _) ← act runner.run
  let summary ← check (inContext "Pipeline run failed") summary
  writeLine (c.document summary)
  tell .success (counted summary.records "record(s): " ++ counted summary.clean "clean, " ++
    counted summary.quarantined "quarantined.")

end RunCommand

/-! ## Listing rules -/

namespace RulesCommand

/-- The columns of a first record, where there is a directory to look into and need for it. -/
def inferred (c : RulesCommand) : Session (Option (List String)) :=
  match c.inputPath, c.rules.columns with
  | some path, [] => do
    let (columns, _) ← act ((Source.ofDirectory path).inferColumns .empty)
    check (inContext ("Failed to infer columns from " ++ path.text)) columns
  | _, _ => pure none

def perform (c : RulesCommand) : Session Unit := do
  let columns := c.rules.columnsOr (← c.inferred)
  if columns.isEmpty then
    fail "No columns: pass --columns or an --input-path with at least one record"
  let rules ← c.rules.compile columns
  writeLine rules.table.render
  if !rules.invalid.isEmpty then
    tell .warning (counted rules.invalid.length "of " ++ counted rules.size
      "rule(s) have invalid expressions.")

end RulesCommand

/-! ## Metrics -/

namespace MetricsCommand

/-- The longest window, in seconds. -/
def longestWindow : Int := 0x7FFFFFFFFFFFFFFF / 1000

/-- The window, which must be positive. -/
def checkedWindow (c : MetricsCommand) : Session (Option Int) :=
  match c.window with
  | none => pure none
  | some seconds =>
    if seconds ≤ 0 then fail "--window-secs must be positive"
    else if seconds > longestWindow then throw .outOfRange
    else pure (some seconds)

def perform (c : MetricsCommand) : Session Unit := do
  let history ← loadHistory ⟨c.tablePath⟩
  let report := MetricsReport.of history (← c.checkedWindow)
  if c.json then writeLine report.toValue.renderIndented
  else if history.isEmpty then tell .info "No committed metrics yet."
  else report.tables.forM fun t => writeLine t.render

end MetricsCommand

/-! ## Redacting again -/

namespace ReprocessCommand

/-- Writes rows to the file that is given, or to the output. -/
def emit (c : ReprocessCommand) (rows : List Processed) : Session Unit := do
  let text := Rows.render (rows.map Processed.toValue)
  match c.output with
  | none => write text
  | some path =>
    Session.perform (behind ("Failed to create " ++ path.text)) (Job.ask (.create path))
    Session.perform Failure.causes (Job.ask (.append path text.toUTF8))

def perform (c : ReprocessCommand) : Session Unit := do
  let layout : Layout := ⟨c.tablePath⟩
  let checkpoint ← loadCheckpoint layout
  let quarantined ← Session.perform (inContext "Failed to read quarantine table")
    (layout.quarantine.readCommitted Quarantined.parse? checkpoint.batches)
  let inferred := quarantined.head?.map fun q => q.record.columns
  let rules ← c.rules.compile (c.rules.columnsOr inferred)
  let failed := FailedRules.ofEvents (← loadHistory layout)
  (failed.unknown rules).forM fun name => tell .warning
    ("Ignoring failures of rule '" ++ name ++ "', which is not in the current rule set.")
  let plan := Plan.select failed rules
  let rows := quarantined.map plan.process
  c.emit rows
  tell .info ("Re-processed " ++ counted rows.length "quarantined record(s) with " ++
    counted plan.size "redaction(s).")
  let kept := (rows.filter fun p => !p.isRedacted).length
  if kept > 0 then
    tell .warning (counted kept "record(s) could not be redacted and were passed through.")

end ReprocessCommand

def Command.perform : Command → Session Unit
  | run c => c.perform
  | rules c => c.perform
  | metrics c => c.perform
  | reprocess c => c.perform

end Quarantine.CommandLine
