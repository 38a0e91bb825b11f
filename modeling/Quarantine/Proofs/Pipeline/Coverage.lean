import Quarantine.Proofs.Pipeline.Attempts
import Quarantine.Proofs.Selection

/-!
# A batch is covered by its own selection

The failures of a batch travel from the verdicts through the tallies, the progress entry and its
events to the failed rules, and select redactions for the very batch that they come from.

    n fails in the events of records ↔ some quarantined record lists n
    n is selected for the batch      ↔ that, or n failed in the history

A runner whose failed rules were taken once does not look at the batch, so it is left out here.
-/

namespace Quarantine

open Quarantine.Disk

theorem one_le_keptCount_iff {n : Nat} : 1 ≤ keptCount n ↔ 1 ≤ n := by
  unfold keptCount
  split <;> omega

/-! ## The failures of a batch -/

section

variable {rules : RuleSet} {records : List Record} {time : Instant} {dataset name : String}

/-- A rule with failures among the events of a batch has a record that does not pass it. -/
theorem contains_ofEvents_progressEvents :
    (FailedRules.ofEvents (progressEvents time dataset rules (routeAll rules records).tallies)).contains
        name = true ↔
      ∃ rule ∈ rules.rules, rule.name = name ∧ ∃ r ∈ records, (rule.judge r).passed = false := by
  have hevents : progressEvents time dataset rules (routeAll rules records).tallies =
      rules.rules.map fun rule => ⟨time, dataset, rule.name,
        keptCount (rule.tally records).passed, keptCount (rule.tally records).failed⟩ := by
    rw [progressEvents, tallies_routeAll, RuleSet.names, List.zipWith_map, List.zipWith_self]
  have hfails (rule : Rule) : Event.hasFailures ⟨time, dataset, rule.name,
      keptCount (rule.tally records).passed, keptCount (rule.tally records).failed⟩ = true ↔
        ∃ r ∈ records, (rule.judge r).passed = false := by
    unfold Event.hasFailures
    rw [decide_eq_true_iff, ← Rule.one_le_failed_iff]
    exact one_le_keptCount_iff
  rw [FailedRules.contains_ofEvents, hevents]
  constructor
  · rintro ⟨e, he, hf, rfl⟩
    obtain ⟨rule, hm, rfl⟩ := List.mem_map.1 he
    exact ⟨rule, hm, rfl, (hfails rule).1 hf⟩
  · rintro ⟨rule, hm, rfl, hr⟩
    exact ⟨_, List.mem_map_of_mem hm, (hfails rule).2 hr, rfl⟩

/-- The rules that fail in a batch are those that its quarantined records list. -/
theorem exists_quarantined_iff :
    (∃ q ∈ (routeAll rules records).quarantined, name ∈ q.failedRules) ↔
      ∃ rule ∈ rules.rules, rule.name = name ∧ ∃ r ∈ records, (rule.judge r).passed = false := by
  rw [quarantined_routeAll]
  constructor
  · rintro ⟨q, hq, hn⟩
    obtain ⟨r, hr, rfl⟩ := List.mem_map.1 hq
    obtain ⟨rule, hm, rfl, hp⟩ := RuleSet.mem_failing.1 hn
    exact ⟨rule, hm, rfl, r, (List.mem_filter.1 hr).1, hp⟩
  · rintro ⟨rule, hm, rfl, r, hr, hp⟩
    refine ⟨⟨r, rules.failing r⟩, List.mem_map.2 ⟨r, List.mem_filter.2 ⟨hr, ?_⟩, rfl⟩,
      RuleSet.mem_failing.2 ⟨rule, hm, rfl, hp⟩⟩
    rw [RuleSet.accepts_eq_false hm hp]
    rfl

/-- After a history the rules that failed in it and those that fail in the batch are selected. -/
theorem BatchOutcome.mem_names_plan {history : List Event} {id : String} :
    name ∈ (BatchOutcome.after rules time history id records).plan.names ↔
      name ∈ rules.names ∧ ((FailedRules.ofEvents history).contains name = true ∨
        ∃ q ∈ (BatchOutcome.after rules time history id records).quarantined,
          name ∈ q.failedRules) := by
  have hplan : (BatchOutcome.after rules time history id records).plan =
      Plan.select (.ofEvents (history ++ progressEvents time cleanDataset rules
        (routeAll rules records).tallies)) rules := by
    rw [← BatchOutcome.events_after rules time history id]
    rfl
  rw [hplan, Plan.mem_names_select, and_comm, FailedRules.contains_ofEvents_append,
    contains_ofEvents_progressEvents, BatchOutcome.quarantined_after, exists_quarantined_iff]

end

/-! ## Batches and runners -/

/-- That the records of a batch are redacted by every rule that one of them did not pass. -/
structure BatchOutcome.Covered (o : BatchOutcome) : Prop where
  processed : o.processed = o.quarantined.map o.plan.process
  selected : ∀ q ∈ o.quarantined, ∀ name ∈ q.failedRules, name ∈ o.plan.names

theorem BatchOutcome.covered_after (rules : RuleSet) (time : Instant) (history : List Event)
    (id : String) (records : List Record) : (after rules time history id records).Covered := by
  refine ⟨rfl, fun q hq name hn => mem_names_plan.2 ⟨?_, .inr ⟨q, hq, hn⟩⟩⟩
  rw [quarantined_after, quarantined_routeAll] at hq
  obtain ⟨r, -, rfl⟩ := List.mem_map.1 hq
  obtain ⟨rule, hm, rfl, -⟩ := RuleSet.mem_failing.1 hn
  exact List.mem_map_of_mem hm

theorem processRecords_ok_iff {time : Instant} {table : RuleTable} {columns : Option (List String)}
    {records : List Record} {o : BatchOutcome} :
    processRecords time table columns records = .ok o ↔
      ∃ rules, RuleSet.compile table (schemaColumns columns records) = .ok rules ∧
        BatchOutcome.after rules time [] "" records = o := by
  unfold processRecords
  cases RuleSet.compile table (schemaColumns columns records) with
  | error e =>
    refine ⟨fun h => (by cases h), ?_⟩
    rintro ⟨rules, h, -⟩
    cases h
  | ok rules =>
    have houtcome := BatchOutcome.of_eq_after rules 1 "" time [] records
    constructor
    · intro h
      exact ⟨rules, rfl, houtcome.symm.trans (Except.ok.inj h)⟩
    · rintro ⟨rules', hrules, rfl⟩
      obtain rfl := Except.ok.inj hrules
      exact congrArg Except.ok houtcome

theorem processRecords_ok {time : Instant} {table : RuleTable} {columns : Option (List String)}
    {records : List Record} {o : BatchOutcome}
    (h : processRecords time table columns records = .ok o) :
    ∃ rules, o = BatchOutcome.after rules time [] "" records := by
  obtain ⟨rules, -, ho⟩ := processRecords_ok_iff.1 h
  exact ⟨rules, ho.symm⟩

namespace Runner

variable {r r' : Runner} {batch : InputBatch} {s : Surroundings}

/-- Where nothing was taken once, a batch is processed after the history and its own events. -/
theorem outcome_eq_after (hpolicy : r.frozen = none) (entryId : String) (time : Instant)
    (batch : InputBatch) : r.outcome entryId time batch =
      BatchOutcome.after r.rules time r.history entryId batch.records := by
  have hfailed : r.failedWith = fun events => .ofEvents (r.history ++ events) := by
    funext events
    rw [failedWith, hpolicy, Option.getD_none]
  rw [outcome, hfailed, BatchOutcome.of_eq_after]

theorem runBatch_eq_after (hpolicy : r.frozen = none) (batch : InputBatch) :
    r.runBatch batch = (do
      let time ← r.time
      let entryId ← Job.ask .newId
      let o := BatchOutcome.after r.rules time r.history entryId batch.records
      r.store r.checkpoint.next o
      (r.committed o time batch).checkpoint.save r.layout.checkpoint
      return (r.report o batch, r.committed o time batch)) := by
  have houtcome : r.outcome = fun entryId time batch =>
      BatchOutcome.after r.rules time r.history entryId batch.records := by
    funext entryId time batch
    exact outcome_eq_after hpolicy entryId time batch
  rw [runBatch_eq, houtcome]

theorem covered_outcome (hpolicy : r.frozen = none) (entryId : String) (time : Instant)
    (batch : InputBatch) : (r.outcome entryId time batch).Covered := by
  rw [outcome_eq_after hpolicy]
  exact BatchOutcome.covered_after ..

/-- What a batch that was run gives is the report and the runner for some outcome of it. -/
theorem exists_outcome {fates rest : List Fate} {d d' : Disk} {report : BatchReport}
    (h : Action.runUnder s (r.runBatch batch).run fates d =
      ⟨some (.ok (report, r')), rest, d'⟩) :
    ∃ entryId time, report = r.report (r.outcome entryId time batch) batch ∧
      r' = r.committed (r.outcome entryId time batch) time batch := by
  have hrun : Job.Ensures s (fun _ => True) (fun x _ => ∃ entryId time,
      x.1 = r.report (r.outcome entryId time batch) batch ∧
        x.2 = r.committed (r.outcome entryId time batch) time batch) (r.runBatch batch) d :=
    ensures_runBatch trivial fun time entryId _ => (Job.ensures_trivial _ _).mono (fun _ h => h)
      fun _ d₁ _ => (Job.ensures_trivial _ _).mono (fun _ h => h)
        fun _ _ _ => ⟨entryId, time, rfl, rfl⟩
  exact hrun.result h

end Runner

/-- Whatever the records and the history, a rule that a quarantined record of a batch did not
pass is selected for that batch, and nothing else is where there is no history. -/
theorem selected_in_same_batch :
    (∀ time table columns records o, processRecords time table columns records = .ok o →
      o.Covered ∧ ∀ name ∈ o.plan.names, ∃ q ∈ o.quarantined, name ∈ q.failedRules) ∧
    ∀ (r : Runner) (batch : InputBatch), r.frozen = none →
      (∀ entryId time, (r.outcome entryId time batch).Covered) ∧
      ∀ s fates rest d d' report r', Action.runUnder s (r.runBatch batch).run fates d =
          ⟨some (.ok (report, r')), rest, d'⟩ →
        ∃ entryId time, report = r.report (r.outcome entryId time batch) batch ∧
          r' = r.committed (r.outcome entryId time batch) time batch := by
  refine ⟨fun time table columns records o h => ?_, fun r batch hpolicy =>
    ⟨fun entryId time => r.covered_outcome hpolicy entryId time batch,
      fun s fates rest d d' report r' h => Runner.exists_outcome h⟩⟩
  obtain ⟨rules, rfl⟩ := processRecords_ok h
  refine ⟨BatchOutcome.covered_after .., fun name hn => ?_⟩
  rcases (BatchOutcome.mem_names_plan.1 hn).2 with hf | hq
  · obtain ⟨e, he, -⟩ := FailedRules.contains_ofEvents.1 hf
    exact absurd he List.not_mem_nil
  · exact hq

/-! ### A case -/

namespace Runner

/-- A table with one rule, which wants a value of a letter. -/
def sampleTable : RuleTable :=
  ⟨[⟨"\x7b\x7d is a letter", "\x7b\x7d rlike '^[a-z]$'", "concat('', '-') as \x7b\x7d"⟩]⟩

/-- A runner for one column, after failures in another. -/
def sample : Runner where
  rules := (RuleSet.compile sampleTable ["c"]).toOption.getD .empty
  source := .ofBatches []
  layout := ⟨⟨"t"⟩⟩
  options := ⟨2, false, some .epoch⟩
  checkpoint := .empty
  history := [⟨.epoch, cleanDataset, "d is a letter", 0, 1⟩]
  frozen := none

/-- A value that does not pass, and a record that has none. -/
def sampleBatch : InputBatch where
  source := "a.ndjson"
  records := [⟨[("c", .string "7")], by decide⟩, ⟨[("d", .null)], by decide⟩]

@[irreducible]
def sampleAftermath : Aftermath (Except Failure (BatchReport × Runner)) :=
  Action.runUnder ⟨.epoch, "id"⟩ (sample.runBatch sampleBatch).run [] .empty

theorem exists_sampleAftermath : ∃ report r' rest d',
    sampleAftermath = ⟨some (.ok (report, r')), rest, d'⟩ := by
  have hok : (sampleAftermath.result.bind Except.toOption).isSome = true := by
    rw [sampleAftermath, runBatch_eq_after rfl]
    decide +kernel
  cases h : sampleAftermath with
  | mk result rest d' =>
    rw [h] at hok
    rcases result with _ | _ | ⟨report, r'⟩
    · cases hok
    · cases hok
    · exact ⟨report, r', rest, d', rfl⟩

end Runner

theorem selected_in_sample :
    (∃ o, processRecords .epoch Runner.sampleTable (some ["c"]) Runner.sampleBatch.records = .ok o ∧
      o.Covered ∧ ∀ name ∈ o.plan.names, ∃ q ∈ o.quarantined, name ∈ q.failedRules) ∧
    Runner.sample.frozen = none ∧
      (∀ entryId time, (Runner.sample.outcome entryId time Runner.sampleBatch).Covered) ∧
      ∃ entryId time report r' rest d',
        Runner.sampleAftermath = ⟨some (.ok (report, r')), rest, d'⟩ ∧
        report = Runner.sample.report (Runner.sample.outcome entryId time Runner.sampleBatch)
          Runner.sampleBatch := by
  have hrun : (processRecords .epoch Runner.sampleTable (some ["c"])
      Runner.sampleBatch.records).toOption.isSome = true := by decide +kernel
  obtain ⟨o, ho⟩ := Option.isSome_iff_exists.1 hrun
  have ho := Workload.eq_ok_of_toOption ho
  obtain ⟨hcovered, hhistory⟩ := selected_in_same_batch.2 Runner.sample Runner.sampleBatch rfl
  obtain ⟨report, r', rest, d', hafter⟩ := Runner.exists_sampleAftermath
  obtain ⟨entryId, time, hreport, -⟩ := hhistory ⟨.epoch, "id"⟩ [] rest .empty d' report r' (by
    rw [← hafter, Runner.sampleAftermath])
  exact ⟨⟨o, ho, selected_in_same_batch.1 _ _ _ _ o ho⟩, rfl, hcovered, entryId, time, report, r',
    rest, d', hafter, hreport⟩

end Quarantine
