import Quarantine.Proofs.Pipeline.OwnParts

/-!
# One batch, with and without a root

Records may be processed as a list, or by a runner on an empty root that is given them as its
only batch.  The first keeps everything in memory; the second splits the records in parts, selects
by a history that it keeps, writes files and reads events back.  Both come to the same.

    parts of batch 0   the rows of the lists, a line for each
    metrics            the events, at another time
    report             the lengths of the lists
-/

namespace Quarantine

open Quarantine.Disk Quarantine.Job Quarantine.Json

/-! ## Time -/

/-- An event at another time. -/
def Event.at (time : Instant) (e : Event) : Event := { e with timestamp := time }

theorem progressEvents_at (time time' : Instant) (dataset : String) (rules : RuleSet)
    (tallies : List Tally) : progressEvents time dataset rules tallies =
      (progressEvents time' dataset rules tallies).map (Event.at time) := by
  unfold progressEvents
  rw [List.map_zipWith]
  rfl

/-- Which rules have failed does not depend on when. -/
theorem FailedRules.ofEvents_at (time : Instant) (events : List Event) :
    ofEvents (events.map (Event.at time)) = ofEvents events := by
  unfold ofEvents
  rw [List.filter_map, List.map_map]
  rfl

namespace BatchOutcome

variable (rules : RuleSet) (time time' : Instant) (id id' : String) (records : List Record)

theorem events_at : (after rules time [] id records).events =
    (after rules time' [] id' records).events.map (Event.at time) := by
  rw [events_after, events_after, progressEvents_at]

/-- Neither the time of a batch nor the name of its entry shows in the processed records. -/
theorem processed_at : (after rules time [] id records).processed =
    (after rules time' [] id' records).processed := by
  rw [processed_after, processed_after, List.nil_append, List.nil_append,
    progressEvents_at time time', FailedRules.ofEvents_at]

end BatchOutcome

/-! ## Reports -/

/-- That a report counts the records of a batch and what became of them. -/
structure BatchReport.Counts (report : BatchReport) (records : List Record) (o : BatchOutcome) :
    Prop where
  records : report.records = records.length
  clean : report.clean = o.clean.length
  quarantined : report.quarantined = o.quarantined.length
  redacted : report.redacted = (o.processed.filter fun p => p.isRedacted).length
  redactionFailures :
    report.redactionFailures = (o.processed.filter fun p => !p.isRedacted).length
  /-- Every record goes one way. -/
  routed : report.records = report.clean + report.quarantined
  /-- Every quarantined record is redacted, or left as it is. -/
  processed : report.quarantined = report.redacted + report.redactionFailures

theorem BatchOutcome.length_processed (rules : RuleSet) (time : Instant) (history : List Event)
    (id : String) (records : List Record) :
    (after rules time history id records).processed.length =
      (after rules time history id records).quarantined.length := by
  rw [processed_after, List.length_map, quarantined_after]

/-- The counts of a report are those of any outcome with the same lists. -/
theorem Runner.counts_report (r : Runner) {o o' : BatchOutcome} {batch : InputBatch}
    (hclean : o.clean = o'.clean) (hquarantined : o.quarantined = o'.quarantined)
    (hprocessed : o.processed = o'.processed)
    (hrouted : batch.records.length = o'.clean.length + o'.quarantined.length)
    (hlength : o'.processed.length = o'.quarantined.length) :
    (r.report o batch).Counts batch.records o' := by
  have hsplit : o'.processed.length = (o'.processed.filter fun p => p.isRedacted).length +
      (o'.processed.filter fun p => !p.isRedacted).length := by
    rw [← List.length_append]
    exact (List.filter_append_perm Processed.isRedacted o'.processed).length_eq.symm
  have hredacted : o.redacted = (o'.processed.filter fun p => p.isRedacted).length := by
    rw [BatchOutcome.redacted, hprocessed]
  have hfailures : o.redactionFailures = (o'.processed.filter fun p => !p.isRedacted).length := by
    rw [BatchOutcome.redactionFailures, hredacted, hprocessed]
    omega
  refine ⟨rfl, congrArg List.length hclean, congrArg List.length hquarantined, hredacted,
    hfailures, ?_, ?_⟩
  · show batch.records.length = o.clean.length + o.quarantined.length
    rw [hclean, hquarantined, hrouted]
  · show o.quarantined.length = o.redacted + o.redactionFailures
    rw [hredacted, hfailures, hquarantined, ← hlength, hsplit]

theorem BatchOutcome.length_routed (rules : RuleSet) (time : Instant) (history : List Event)
    (id : String) (records : List Record) :
    records.length = (after rules time history id records).clean.length +
      (after rules time history id records).quarantined.length := by
  have hperm := (records_perm rules time history id records).length_eq
  rw [List.length_append, List.length_map] at hperm
  exact hperm.symm

/-! ## What is stored -/

variable {l : Layout} {s : Surroundings} {start d d' : Disk}

/-- That an outcome is stored as the only batch: its lists in the parts, and in the metrics its
events, at some other time. -/
structure Layout.Stores (l : Layout) (d : Disk) (c : Checkpoint) (o : BatchOutcome) : Prop where
  checkpoint : ∀ s, (Checkpoint.load l.checkpoint).outcome s d = (.ok c, d)
  batches : c.batches.items = [0]
  clean : l.Holds d .clean 0 (o.clean.map Record.toValue)
  quarantine : l.Holds d .quarantine 0 (o.quarantined.map Quarantined.toValue)
  processed : l.Holds d .processed 0 (o.processed.map Processed.toValue)
  metrics : ∃ time, l.Holds d .metrics 0 ((o.events.map (Event.at time)).map Event.toValue) ∧
    ∀ s, (l.metrics.readCommitted Event.parse? c.batches).outcome s d =
      (.ok (o.events.map (Event.at time)), d)

namespace Runner

variable {r r' : Runner} {rest : List (List Record)} {served : Nat} {records : List Record}

/-! ## Runners with batches in memory -/

/-- A step runs the first batch in memory. -/
theorem runUnder_step_memory (h : r.source = .memory (records :: rest) served)
    (fates : List Fate) : r.step.runUnder s fates d =
      let r := { r with source := .memory rest (served + 1) }
      let ran := Action.runUnder s (r.runBatch ⟨"memory-" ++ toString served, records⟩).run fates d
      ⟨ran.result.map r.stepped, ran.fates, ran.disk⟩ := by
  rw [step_memory h, Action.runUnder_bind]
  dsimp only
  cases Action.runUnder s (runBatch { r with source := .memory rest (served + 1) }
      ⟨"memory-" ++ toString served, records⟩).run fates d with
  | mk result fates' d' => rcases result with _ | e | ⟨report, r'⟩ <;> rfl

theorem ran_of_memory_step (h : r.source = .memory (records :: rest) served)
    {fates left : List Fate} {report : BatchReport}
    (hstep : r.step.runUnder s fates d = ⟨some (.ok (some report), r'), left, d'⟩) :
    Action.runUnder s (runBatch { r with source := .memory rest (served + 1) }
      ⟨"memory-" ++ toString served, records⟩).run fates d =
        ⟨some (.ok (report, r')), left, d'⟩ := by
  rw [runUnder_step_memory h] at hstep
  dsimp only at hstep
  cases hran : Action.runUnder s (runBatch { r with source := .memory rest (served + 1) }
      ⟨"memory-" ++ toString served, records⟩).run fates d with
  | mk result left' d'' =>
    rw [hran] at hstep
    rcases result with _ | e | ⟨report', r''⟩
    · cases hstep
    · cases hstep
    · cases hstep
      rfl

theorem runUnder_step_end (h : r.source = .memory [] served) (fates : List Fate) :
    r.step.runUnder s fates d = ⟨some (.ok none, r), fates, d⟩ := by
  obtain ⟨rules, source, layout, options, checkpoint, history, frozen⟩ := r
  obtain rfl : source = .memory [] served := h
  rfl

/-! ## The only batch -/

/-- A single commit that was made after no history stores what processing its records gives. -/
theorem stores_of_commit {c : Commit} {rules : RuleSet} (time : Instant)
    (houtcome : c.outcome = .after rules c.time [] c.entryId c.batch.records)
    (hk : l.Keeps [c] d) (hexact : l.Exact [c] d) :
    l.Stores d (checkpointOf [c]) (.after rules time [] "" c.batch.records) := by
  have hc : [c][0]? = some c := rfl
  have hholds (k : TableKind) := hexact.holds hk hc k
  rw [houtcome] at hholds
  have hevents := BatchOutcome.events_at rules c.time time c.entryId "" c.batch.records
  have hhistory : historyOf [c] = c.outcome.events := List.flatMap_singleton ..
  refine ⟨hk.load, rfl, hholds .clean, hholds .quarantine, ?_, c.time, ?_, fun s => ?_⟩
  · rw [BatchOutcome.processed_at rules time c.time "" c.entryId]
    exact hholds .processed
  · rw [← hevents]
    exact hholds .metrics
  · rw [← hevents, ← houtcome, ← hhistory]
    exact hk.shows_history.outcome

/-- A runner on an empty root that is given records as its only batch stores what processing them
as a list gives, and reports its counts. -/
theorem stores_processRecords {table : RuleTable} {columns : List String} {rules : RuleSet}
    (hcompiled : RuleSet.compile table columns = .ok rules) (time : Instant)
    (records : List Record) {options : Options} (hpolicy : options.frozen = false)
    (hempty : EmptyRoot start l.root) {fates left : List Fate}
    (hopen : Action.runUnder s (open? rules (.ofBatches [records]) l options).run fates start =
      ⟨some (.ok r), left, d⟩) :
    ∃ o, processRecords time table (some columns) records = .ok o ∧
      (∀ s, ∃ report r' d',
        r.step.runUnder s [] d = ⟨some (.ok (some report), r'), [], d'⟩) ∧
      ∀ s fates report r' left d',
        r.step.runUnder s fates d = ⟨some (.ok (some report), r'), left, d'⟩ →
          report.batch = 0 ∧ report.source = "memory-0" ∧ report.Counts records o ∧
          l.Stores d' r'.checkpoint o ∧
          ∀ s fates, r'.step.runUnder s fates d' = ⟨some (.ok none, r'), fates, d'⟩ := by
  have hk := Layout.keeps_of_empty hempty
  obtain ⟨hk₁, -, rfl, hup⟩ := (ensures_open_keeps (s := s) hk rules _ options).result hopen
  have hunused := unused_open hk (by decide) hopen
  have hup₁ : (resumed rules (.memory [] 1) l options []).UpToDate l [] d := hup.supplied _
  have hprocess : processRecords time table (some columns) records =
      .ok (.after rules time [] "" records) := by
    rw [processRecords, schemaColumns, Option.getD_some, hcompiled]
    exact congrArg Except.ok (BatchOutcome.of_eq_after rules 1 "" time [] records)
  refine ⟨_, hprocess, fun s => ?_, fun s fates report r' left d' h => ?_⟩
  · obtain ⟨⟨report, r'⟩, d', hrun⟩ := runUnder_nil_of_succeeds (s := s)
      ((hup.supplied (.memory [] 1)).succeeds_runBatch hk₁ (by decide)
        ⟨"memory-" ++ toString 0, records⟩)
    refine ⟨report, r', d', ?_⟩
    rw [runUnder_step_memory rfl]
    dsimp only
    rw [hrun]
    rfl
  · have hran := ran_of_memory_step rfl h
    obtain ⟨entryId, time', rfl, rfl, hk', hup', -⟩ := hup₁.of_report hk₁ (by decide) hran
    obtain ⟨hexact, -⟩ := hup₁.exact_of_report hk₁ (Layout.exact_nil l d) hunused hran hk'
    have hfrozen : (resumed rules (.memory [] 1) l options []).frozen = none := by
      rw [resumed, hpolicy, if_neg Bool.false_ne_true]
    have houtcome := outcome_eq_after hfrozen entryId time' ⟨"memory-" ++ toString 0, records⟩
    have hstores := stores_of_commit time ((outcome_commitOf ..).trans houtcome) hk' hexact
    rw [← List.nil_append [commitOf _ _ _ _], ← hup'.checkpoint] at hstores
    refine ⟨rfl, rfl, ?_, hstores, fun s fates => runUnder_step_end rfl fates⟩
    rw [houtcome]
    exact counts_report _ rfl rfl (BatchOutcome.processed_at ..) (BatchOutcome.length_routed ..)
      (BatchOutcome.length_processed ..)

set_option maxRecDepth 100000 in
/-- A value that does not pass and a record that has none, on two partitions. -/
theorem stores_sample : ∃ rules r d o, RuleSet.compile sampleTable ["c"] = .ok rules ∧
    sample.options.frozen = false ∧ EmptyRoot .empty sample.layout.root ∧
    Action.runUnder ⟨.epoch, "id"⟩ (open? rules (.ofBatches [sampleBatch.records]) sample.layout
      sample.options).run [] .empty = ⟨some (.ok r), [], d⟩ ∧
    processRecords .epoch sampleTable (some ["c"]) sampleBatch.records = .ok o ∧
    o.quarantined ≠ [] ∧
    ∃ report r' d', r.step.runUnder ⟨.epoch, "id"⟩ [] d =
        ⟨some (.ok (some report), r'), [], d'⟩ ∧
      report.Counts sampleBatch.records o ∧ sample.layout.Stores d' r'.checkpoint o := by
  have hcompiled : (RuleSet.compile sampleTable ["c"]).toOption.isSome = true := by decide +kernel
  obtain ⟨rules, hrules⟩ := Option.isSome_iff_exists.1 hcompiled
  obtain rfl : sample.rules = rules := by
    rw [sample, hrules]
    rfl
  have hopens : ((open? sample.rules (.ofBatches [sampleBatch.records]) sample.layout
      sample.options).outcome ⟨.epoch, "id"⟩ .empty).1.toOption.isSome = true := by
    decide +kernel
  obtain ⟨x, hx⟩ := Option.isSome_iff_exists.1 hopens
  obtain ⟨r, d, hopen⟩ := runUnder_nil_of_succeeds ⟨x, Workload.eq_ok_of_toOption hx⟩
  have hcompiled := Workload.eq_ok_of_toOption hrules
  obtain ⟨o, ho, hsteps, hall⟩ := stores_processRecords hcompiled .epoch sampleBatch.records rfl
    emptyRoot_sample hopen
  obtain ⟨report, r', d', hstep⟩ := hsteps ⟨.epoch, "id"⟩
  obtain ⟨-, -, hcounts, hstores, -⟩ := hall _ _ _ _ _ _ hstep
  refine ⟨_, r, d, o, hcompiled, rfl, emptyRoot_sample, hopen, ho, fun hnone => ?_, report, r', d',
    hstep, hcounts, hstores⟩
  have hquarantined : ((processRecords .epoch sampleTable (some ["c"])
      sampleBatch.records).toOption.any fun o => !o.quarantined.isEmpty) = true := by
    decide +kernel
  rw [ho] at hquarantined
  simp [Except.toOption, hnone] at hquarantined

end Runner
end Quarantine
