import Quarantine.Display.BoxTable
import Quarantine.Metrics.Report
import Quarantine.Pipeline.Report

/-!
# Tables of results

The summary of a run, the rules of a set, and sums of events, as tables in boxes.
-/

namespace Quarantine

/-- A row for each batch, and one for all. -/
def RunSummary.table (s : RunSummary) : BoxTable where
  header := ["Batch", "Source", "Records", "Clean", "Quarantined", "Redacted",
    "Redaction failures"]
  rows := s.batches.map (fun b => toString b.batch :: b.source ::
      [b.records, b.clean, b.quarantined, b.redacted, b.redactionFailures].map toString) ++
    ["total" :: "" ::
      [s.records, s.clean, s.quarantined, s.redacted, s.redactionFailures].map toString]

/-- Whether the expressions of a rule can be read, and why not. -/
def Rule.status (rule : Rule) : String :=
  match rule.expressionErrors with
  | [] => "ok"
  | errors => "invalid: " ++ "; ".intercalate (errors.map Failure.message)

def RuleSet.table (s : RuleSet) : BoxTable where
  header := ["Rule", "Column", "Constraint", "Action", "Status"]
  rows := s.rules.map fun rule =>
    [rule.name, rule.column, rule.constraint, rule.action, rule.status]

/-- Sums by rule; the redaction of a rule that has failed is selected. -/
def Totals.table (rows : List Totals) (failed : FailedRules) : BoxTable where
  header := ["Rule", "Passed", "Failed", "Redaction selected"]
  rows := rows.map fun t =>
    [t.rule, toString t.passed, toString t.failed, if failed.contains t.rule then "yes" else "no"]

/-- The form of an instant in tables, as in `2024-05-01T12:00:00+00:00`. -/
def Instant.renderOffset (t : Instant) : String :=
  dateText t.civil ++ "T" ++ t.timeText ++ "+00:00"

def WindowTotals.table (rows : List WindowTotals) : BoxTable where
  header := ["Window start", "Rule", "Passed", "Failed"]
  rows := rows.map fun t =>
    [t.start.renderOffset, t.rule, toString t.passed, toString t.failed]

/-- The totals, and the windows if there are any. -/
def MetricsReport.tables (r : MetricsReport) : List BoxTable :=
  Totals.table r.totals r.failed :: (r.windows.map WindowTotals.table).toList

end Quarantine
