import Quarantine.Proofs.Pipeline.SingleBatch

/-!
# Records in another order

The records of a batch meet in the tallies only, and there they are counted.  So their order
selects nothing: the same rules fail, the same redactions are chosen, and then each record is
treated on its own.

    records ~ records'   →  tallies, events and plan are the same
    clean, quarantined and processed records  =  parts of  records.map treat
-/

namespace Quarantine

/-- Records are counted, in whatever order they come. -/
theorem tallies_perm {rules : RuleSet} {records records' : List Record}
    (hperm : records.Perm records') :
    (routeAll rules records).tallies = (routeAll rules records').tallies := by
  rw [tallies_routeAll, tallies_routeAll]
  refine List.map_congr_left fun rule _ => ?_
  unfold Rule.tally
  rw [hperm.countP_eq, hperm.countP_eq]

/-! ## Treatments -/

/-- What becomes of one record. -/
inductive Treatment where
  | clean (r : Record)
  | quarantined (q : Quarantined) (p : Processed)

namespace Treatment

def clean? : Treatment → Option Record
  | clean r => some r
  | quarantined .. => none

def quarantined? : Treatment → Option Quarantined
  | clean _ => none
  | quarantined q _ => some q

def processed? : Treatment → Option Processed
  | clean _ => none
  | quarantined _ p => some p

end Treatment

/-- What becomes of a record under rules and a plan, whatever the other records are. -/
def Plan.treat (plan : Plan) (rules : RuleSet) (r : Record) : Treatment :=
  match route r (rules.judge r) with
  | .clean r => .clean r
  | .quarantined q => .quarantined q (plan.process q)

namespace Plan

variable (plan : Plan) (rules : RuleSet) (r : Record)

theorem treat_eq : plan.treat rules r = if rules.accepts r = true then .clean r else
    .quarantined ⟨r, rules.failing r⟩ (plan.process ⟨r, rules.failing r⟩) := by
  unfold treat route
  by_cases h : Judgement.allPassed (rules.judge r) = true
  · rw [if_pos h]
    exact (if_pos h).symm
  · rw [if_neg h]
    exact (if_neg h).symm

theorem clean?_treat : (plan.treat rules r).clean? = Option.guard rules.accepts r := by
  rw [treat_eq, Option.guard]
  split <;> rfl

theorem quarantined?_treat : (plan.treat rules r).quarantined? =
    (Option.guard (fun r => !rules.accepts r) r).map fun r => ⟨r, rules.failing r⟩ := by
  rw [treat_eq, Option.guard]
  cases rules.accepts r <;> rfl

theorem processed?_treat :
    (plan.treat rules r).processed? = (plan.treat rules r).quarantined?.map plan.process := by
  rw [treat_eq]
  split <;> rfl

end Plan

namespace BatchOutcome

/-- That the lists of an outcome are those of treatments, in their order. -/
structure Splits (o : BatchOutcome) (ts : List Treatment) : Prop where
  clean : o.clean = ts.filterMap Treatment.clean?
  quarantined : o.quarantined = ts.filterMap Treatment.quarantined?
  processed : o.processed = ts.filterMap Treatment.processed?

/-- Records in another order are treated alike, each list in its order. -/
theorem Splits.perm {o o' : BatchOutcome} {records records' : List Record}
    {treat : Record → Treatment} (h : o.Splits (records.map treat))
    (h' : o'.Splits (records'.map treat)) (hperm : records.Perm records') :
    o.clean.Perm o'.clean ∧ o.quarantined.Perm o'.quarantined ∧ o.processed.Perm o'.processed := by
  rw [h.clean, h.quarantined, h.processed, h'.clean, h'.quarantined, h'.processed]
  have htreated := hperm.map treat
  exact ⟨htreated.filterMap _, htreated.filterMap _, htreated.filterMap _⟩

section

variable (rules : RuleSet) (time time' : Instant) (history : List Event) (id id' : String)
  {records records' : List Record}

theorem plan_after (records : List Record) : (after rules time history id records).plan =
    Plan.select (.ofEvents (history ++ (after rules time history id records).events)) rules := rfl

/-- Once the plan is made, each record is treated on its own. -/
theorem splits_after (records : List Record) : (after rules time history id records).Splits
    (records.map ((after rules time history id records).plan.treat rules)) := by
  generalize hplan : (after rules time history id records).plan = plan
  have hquarantined : (after rules time history id records).quarantined =
      (records.map (plan.treat rules)).filterMap Treatment.quarantined? := by
    rw [quarantined_after, quarantined_routeAll, ← List.filterMap_eq_filter, List.map_filterMap,
      List.filterMap_map]
    exact congrArg (List.filterMap · records) (funext fun r =>
      (plan.quarantined?_treat rules r).symm)
  refine ⟨?_, hquarantined, ?_⟩
  · rw [clean_after, clean_routeAll, ← List.filterMap_eq_filter, List.filterMap_map]
    exact congrArg (List.filterMap · records) (funext fun r => (plan.clean?_treat rules r).symm)
  · have hprocessed : (after rules time history id records).processed =
        (after rules time history id records).quarantined.map plan.process := hplan ▸ rfl
    rw [hprocessed, hquarantined, List.map_filterMap, List.filterMap_map, List.filterMap_map]
    exact congrArg (List.filterMap · records) (funext fun r =>
      (plan.processed?_treat rules r).symm)

/-! ## Events and plans -/

variable {rules}

theorem events_perm (hperm : records.Perm records') :
    (after rules time history id records).events =
      (after rules time' history id' records').events.map (Event.at time) := by
  rw [events_after, events_after, tallies_perm hperm, progressEvents_at]

/-- Which redactions are chosen depends on neither the order of the records nor the time. -/
theorem plan_perm (hperm : records.Perm records') :
    (after rules time [] id records).plan = (after rules time' [] id' records').plan := by
  rw [plan_after, plan_after, events_perm time time' [] id id' hperm, List.nil_append,
    List.nil_append, FailedRules.ofEvents_at]

end

end BatchOutcome

/-! ## Lists of records -/

/-- Records in another order come to the same events, but for the time, and to the same plan;
with that plan each record is treated on its own, and the lists come in the order of the
records. -/
theorem processRecords_of_perm {table : RuleTable} {columns : List String} {rules : RuleSet}
    (hcompiled : RuleSet.compile table columns = .ok rules) {records records' : List Record}
    (hperm : records.Perm records') (time time' : Instant) :
    ∃ o o', processRecords time table (some columns) records = .ok o ∧
      processRecords time' table (some columns) records' = .ok o' ∧
      o.events = o'.events.map (Event.at time) ∧ o.plan = o'.plan ∧
      o.Splits (records.map (o.plan.treat rules)) ∧
      o'.Splits (records'.map (o.plan.treat rules)) ∧
      o.clean.Perm o'.clean ∧ o.quarantined.Perm o'.quarantined ∧
      o.processed.Perm o'.processed := by
  have hplan : (BatchOutcome.after rules time [] "" records).plan =
      (BatchOutcome.after rules time' [] "" records').plan :=
    BatchOutcome.plan_perm time time' "" "" hperm
  have hsplits := BatchOutcome.splits_after rules time [] "" records
  have hsplits' := BatchOutcome.splits_after rules time' [] "" records'
  rw [← hplan] at hsplits'
  exact ⟨_, _, processRecords_ok_iff.2 ⟨rules, hcompiled, rfl⟩,
    processRecords_ok_iff.2 ⟨rules, hcompiled, rfl⟩,
    BatchOutcome.events_perm time time' [] "" "" hperm, hplan, hsplits, hsplits',
    hsplits.perm hsplits' hperm⟩

/-- A value that does not pass and a record without one, and the same the other way round. -/
theorem processRecords_of_reversed : ∃ rules o o',
    RuleSet.compile Runner.sampleTable ["c"] = .ok rules ∧
    Runner.sampleBatch.records.Perm Runner.sampleBatch.records.reverse ∧
    processRecords .epoch Runner.sampleTable (some ["c"]) Runner.sampleBatch.records = .ok o ∧
    processRecords .epoch Runner.sampleTable (some ["c"]) Runner.sampleBatch.records.reverse =
      .ok o' ∧
    o.plan = o'.plan ∧ o.plan.names = ["c is a letter"] ∧ o.quarantined.Perm o'.quarantined ∧
    o.quarantined.map (fun q => q.record.columns) = [["c"], ["d"]] ∧
    o'.quarantined.map (fun q => q.record.columns) = [["d"], ["c"]] := by
  have hcompiled : (RuleSet.compile Runner.sampleTable ["c"]).toOption.isSome = true := by
    decide +kernel
  obtain ⟨rules, hrules⟩ := Option.isSome_iff_exists.1 hcompiled
  have hrules := Workload.eq_ok_of_toOption hrules
  have hperm := (List.reverse_perm Runner.sampleBatch.records).symm
  obtain ⟨o, o', ho, ho', -, hplan, -, -, -, hquarantined, -⟩ :=
    processRecords_of_perm hrules hperm .epoch .epoch
  have hselected : (processRecords .epoch Runner.sampleTable (some ["c"])
      Runner.sampleBatch.records).toOption.map (fun o => (o.plan.names,
        o.quarantined.map fun q => q.record.columns)) =
          some (["c is a letter"], [["c"], ["d"]]) := by
    decide +kernel
  have hreversed : (processRecords .epoch Runner.sampleTable (some ["c"])
      Runner.sampleBatch.records.reverse).toOption.map (fun o =>
        o.quarantined.map fun q => q.record.columns) = some [["d"], ["c"]] := by
    decide +kernel
  rw [ho] at hselected
  rw [ho'] at hreversed
  obtain ⟨hnames, hcolumns⟩ := Prod.mk.inj (Option.some.inj hselected)
  exact ⟨rules, o, o', hrules, hperm, ho, ho', hplan, hnames, hquarantined, hcolumns,
    Option.some.inj hreversed⟩

end Quarantine
