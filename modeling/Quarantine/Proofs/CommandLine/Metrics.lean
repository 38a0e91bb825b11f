import Quarantine.Proofs.CommandLine.Success
import Quarantine.Proofs.Metrics.Windows
import Quarantine.Proofs.Selection

/-!
# The report on the committed events

The command that sums up the metrics reads the committed events and checks the window that it is
given.  It writes nothing before both are done, and then one document.

    (of history window).Conserves history    no event is lost, and none is counted twice
    Finds.outcome_perform                    what the command comes to, for every window
-/

namespace Quarantine

/-! ## Reports -/

namespace MetricsReport

/-- That a report sums up a history, by rule and by window to the same counts. -/
structure Conserves (r : MetricsReport) (history : List Event) : Prop where
  events : r.events = history.length
  totals : ∀ rule, Totals.sum rule r.totals = Totals.sum rule (history.map Event.row)
  rows : ∀ row ∈ r.totals, row = Totals.sum row.rule r.totals
  windows : ∀ ws ∈ r.windows, ∀ rule,
    Totals.sum rule (ws.map WindowTotals.row) = Totals.sum rule r.totals
  failed : ∀ rule, rule ∈ r.failed.names.items ↔ ∃ row ∈ r.totals, row.rule = rule ∧ 1 ≤ row.failed

theorem conserves_of (history : List Event) (window : Option Int) :
    (of history window).Conserves history where
  events := rfl
  totals rule := sum_totals rule history
  rows row hrow := by
    show row = Totals.sum row.rule (Quarantine.totals history)
    rw [sum_totals, (mem_totals.1 hrow).2]
  windows ws hws rule := by
    obtain ⟨seconds, -, rfl⟩ := Option.map_eq_some_iff.1 hws
    show _ = Totals.sum rule (Quarantine.totals history)
    rw [map_row_windowTotals, sum_rows_windows, sum_totals]
  failed rule := Ascending.contains_iff.symm.trans FailedRules.contains_ofEvents_iff_totals

end MetricsReport

/-! ## The command -/

namespace CommandLine.MetricsCommand

open Quarantine.Disk Session

variable {s : Surroundings} {t : Transcript} {d : Disk} {c : MetricsCommand} {history : List Event}

/-- That a table shows a history of committed events. -/
def Finds (c : MetricsCommand) (d : Disk) (history : List Event) : Prop :=
  ∃ checkpoint : Checkpoint, checkpoint.FoundAt (Layout.mk c.tablePath).checkpoint d ∧
    (Layout.mk c.tablePath).metrics.Shows Event.parse? checkpoint.batches d history

/-- A window is checked before anything is written. -/
theorem outcome_checkedWindow {seconds : Int} (h : c.window = some seconds) :
    outcome s c.checkedWindow t d =
      ((if seconds ≤ 0 then .error (.failed ["--window-secs must be positive"])
        else if seconds > longestWindow then .error .outOfRange
        else .ok (some seconds), t), d) := by
  unfold checkedWindow
  rw [h]
  dsimp only
  split
  · rfl
  · split <;> rfl

/-- Where events are found, the document is written exactly if the window is positive and not too
long; otherwise the command stops and has written nothing. -/
theorem Finds.outcome_perform (h : c.Finds d history) (hjson : c.json = true) {seconds : Int}
    (hwindow : c.window = some seconds) (s : Surroundings) (t : Transcript) :
    outcome s c.perform t d =
      if seconds ≤ 0 then ((.error (.failed ["--window-secs must be positive"]), t), d)
      else if seconds > longestWindow then ((.error .outOfRange, t), d)
      else ((.ok (), { t with output := t.output ++
        ((MetricsReport.of history (some seconds)).toValue.renderIndented ++ "\n") }), d) := by
  obtain ⟨checkpoint, hfound, hshows⟩ := h
  have hchecked := outcome_checkedWindow (s := s) (t := t) (d := d) hwindow
  rw [perform]
  refine (outcome_bind_of_outcome (outcome_loadHistory hfound hshows)).trans ?_
  simp only [if_pos hjson]
  split
  · next hle =>
    rw [if_pos hle] at hchecked
    exact outcome_bind_of_stop hchecked
  · next hle =>
    rw [if_neg hle] at hchecked
    split
    · next hlong =>
      rw [if_pos hlong] at hchecked
      exact outcome_bind_of_stop hchecked
    · next hlong =>
      rw [if_neg hlong] at hchecked
      exact outcome_bind_of_outcome hchecked

end CommandLine.MetricsCommand
end Quarantine
