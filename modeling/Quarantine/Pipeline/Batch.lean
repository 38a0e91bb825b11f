import Quarantine.Metrics.Entry
import Quarantine.Processing

/-!
# Batches

What the rules make of the records of one batch, before anything of it is stored: the records
are routed, the tallies become a progress entry, and the quarantined records are redacted by
the rules that have failed by then.
-/

namespace Quarantine

/-- The dataset that progress entries name. -/
def cleanDataset : String := "clean"

structure BatchOutcome where
  clean : List Record
  quarantined : List Quarantined
  processed : List Processed
  entry : Entry
  events : List Event
  plan : Plan

namespace BatchOutcome

/-- The outcome of a batch; the failed rules are taken from its events. -/
def of (rules : RuleSet) (partitions : Nat) (id : String) (time : Instant)
    (failed : List Event → FailedRules) (records : List Record) : BatchOutcome :=
  let routed := routeParallel rules partitions records
  let entry := Entry.progress id time cleanDataset rules routed.tallies
  let events := aggregate [entry]
  let plan := Plan.select (failed events) rules
  ⟨routed.clean, routed.quarantined, routed.quarantined.map plan.process, entry, events, plan⟩

/-- The quarantined records that were redacted. -/
def redacted (o : BatchOutcome) : Nat := (o.processed.filter Processed.isRedacted).length

/-- The quarantined records that were left as they were. -/
def redactionFailures (o : BatchOutcome) : Nat := o.processed.length - o.redacted

end BatchOutcome

/-- The columns to compile for: those given, or those of the first record. -/
def schemaColumns (columns : Option (List String)) (records : List Record) : List String :=
  columns.getD ((records.head?.map Record.columns).getD [])

/-- Processes a list of records as a single batch, with no batches before it. -/
def processRecords (time : Instant) (table : RuleTable) (columns : Option (List String))
    (records : List Record) : Except Failure BatchOutcome :=
  match RuleSet.compile table (schemaColumns columns records) with
  | .error e => .error e
  | .ok rules => .ok (.of rules 1 "" time .ofEvents records)

end Quarantine
