import Quarantine.Pipeline.Batch
import Quarantine.Pipeline.Report
import Quarantine.Storage.Layout
import Quarantine.Storage.Source

/-!
# Runners

A runner takes batches from a source and stores what becomes of them.  All parts of a batch are
written before the checkpoint that commits it, so a run that stopped stands as of its last
committed batch: what it left of others is discarded when the root is opened again.

    a step that fails leaves checkpoint and history as they were
-/

namespace Quarantine

structure Options where
  /-- The parts that a batch is routed in. -/
  partitions : Nat
  /-- Whether redactions are selected once, from the history that the runner starts with. -/
  frozen : Bool
  /-- The time of every batch, in place of the clock's. -/
  time : Option Instant

structure Runner where
  rules : RuleSet
  source : Source
  layout : Layout
  options : Options
  checkpoint : Checkpoint
  /-- The events of the committed batches. -/
  history : List Event
  /-- The failed rules, where they were taken once. -/
  frozen : Option FailedRules

namespace Runner

/-- Prepares a root, discards what is not committed and reads the history. -/
def open? (rules : RuleSet) (source : Source) (layout : Layout) (options : Options) :
    Job Runner := do
  layout.ensure
  let checkpoint ← Checkpoint.load layout.checkpoint
  layout.tables.forM fun t => discard (t.discardUncommitted checkpoint.batches)
  let history ← layout.metrics.readCommitted Event.parse? checkpoint.batches
  return {
    rules
    source
    layout
    options
    checkpoint
    history
    frozen := if options.frozen then some (.ofEvents history) else none }

/-- The failed rules after events that are not in the history yet. -/
def failedWith (r : Runner) (events : List Event) : FailedRules :=
  r.frozen.getD (.ofEvents (r.history ++ events))

/-- The failed rules that redactions are selected by now. -/
def failed (r : Runner) : FailedRules := r.failedWith []

/-! ## Steps -/

def time (r : Runner) : Job Instant :=
  match r.options.time with
  | some t => pure t
  | none => Job.ask .now

/-- Writes the parts of a batch. -/
def store (r : Runner) (id : Nat) (o : BatchOutcome) : Job Unit := do
  discard (r.layout.clean.writePart id (o.clean.map Record.toValue))
  discard (r.layout.quarantine.writePart id (o.quarantined.map Quarantined.toValue))
  discard (r.layout.processed.writePart id (o.processed.map Processed.toValue))
  discard (r.layout.entries.writePart id [o.entry.toValue])
  discard (r.layout.metrics.writePart id (o.events.map Event.toValue))

/-- Routes, redacts, stores and commits a batch. -/
def runBatch (r : Runner) (batch : InputBatch) : Job (BatchReport × Runner) := do
  let id := r.checkpoint.next
  let time ← r.time
  let o := BatchOutcome.of r.rules r.options.partitions (← Job.ask .newId) time r.failedWith
    batch.records
  r.store id o
  let checkpoint := r.checkpoint.commit id batch.source time
  checkpoint.save r.layout.checkpoint
  let report : BatchReport := {
    batch := id
    source := batch.source
    records := batch.records.length
    clean := o.clean.length
    quarantined := o.quarantined.length
    redacted := o.redacted
    redactionFailures := o.redactionFailures
    selected := o.plan.names }
  return (report, { r with checkpoint, history := r.history ++ o.events })

/-- Runs the next batch, if there is one. -/
def step (r : Runner) : Action (Except Failure (Option BatchReport) × Runner) := do
  let (batch, source) ← r.source.next r.checkpoint
  let r := { r with source }
  match batch with
  | .error e => return (.error e, r)
  | .ok none => return (.ok none, r)
  | .ok (some batch) =>
    match ← (r.runBatch batch).run with
    | .error e => return (.error e, r)
    | .ok (report, r) => return (.ok (some report), r)

/-! ## Runs -/

def summary (r : Runner) (batches : List BatchReport) : RunSummary :=
  ⟨batches, (FailedRules.ofEvents r.history).names.items⟩

/-- Runs up to a number of batches after those that were reported. -/
def runUpTo (batches : List BatchReport) :
    (fuel : Nat) → Runner → Action (Except Failure RunSummary × Runner)
  | 0, r => return (.ok (r.summary batches), r)
  | fuel + 1, r => do
    match ← r.step with
    | (.error e, r) => return (.error e, r)
    | (.ok none, r) => return (.ok (r.summary batches), r)
    | (.ok (some report), r) => runUpTo (batches ++ [report]) fuel r

/-- Runs until the source has no more batches.  After one step the source knows how many there
can be. -/
def run (r : Runner) : Action (Except Failure RunSummary × Runner) := do
  match ← r.step with
  | (.error e, r) => return (.error e, r)
  | (.ok none, r) => return (.ok (r.summary []), r)
  | (.ok (some report), r) => runUpTo [report] (r.source.size + 1) r

end Runner
end Quarantine
