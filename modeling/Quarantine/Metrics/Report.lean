import Quarantine.Metrics.Totals
import Quarantine.Selection

/-!
# Reports of metrics

A history of events summed up: by rule, by window if a window is given, and the rules that have
failed.
-/

namespace Quarantine

open Quarantine.Json

structure MetricsReport where
  events : Nat
  totals : List Totals
  windows : Option (List WindowTotals)
  failed : FailedRules

namespace MetricsReport

/-- The report on a history, with windows of some seconds. -/
def of (history : List Event) (window : Option Int) : MetricsReport where
  events := history.length
  totals := Quarantine.totals history
  windows := window.map fun seconds => windowTotals seconds history
  failed := .ofEvents history

def toValue (r : MetricsReport) : Value :=
  .object [("events", ofNat r.events), ("totals", .array (r.totals.map Totals.toValue)),
    ("windows", r.windows.elim .null fun ws => .array (ws.map WindowTotals.toValue)),
    ("failed_rules", ofStrings r.failed.names.items)]

end MetricsReport
end Quarantine
