import Quarantine.Proofs.Pipeline.OwnParts
import Quarantine.Proofs.Processing

/-!
# Records that pass through

A quarantined record of which a redaction fails is written out as it came.  If the rules do what
they do wherever their column is there, and nothing where it is not, a redaction can only fail for
a column that is missing.  Then the record has failed the rules of that column as well, so that
they are selected in its batch, and the failure is sure.  So it is with the standard table.

    rule rests on its column     it redacts a record with the column; no record without it passes
    redactWith r rules succeeds  ↔  r has the columns of rules
    q of a batch is redacted     ↔  q's record has the columns of all rules, selected or not
-/

namespace Quarantine

open Quarantine.Disk Quarantine.Job Quarantine.Json

/-! ## Rules that rest on their column -/

/-- That a rule redacts every record that has its column, and lets through, and redacts, none
that does not. -/
structure Rule.RestsOnColumn (rule : Rule) : Prop where
  redacts : ∀ r : Record, rule.column ∈ r.columns → ∃ target v, rule.redact r = .ok (target, v)
  stops : ∀ r : Record, rule.column ∉ r.columns → ∀ target v, rule.redact r ≠ .ok (target, v)
  refuses : ∀ r : Record, rule.column ∉ r.columns → (rule.judge r).passed = false

theorem Rule.passed_judge (rule : Rule) (r : Record) :
    (rule.judge r).passed = (Verdict.ofCheck (rule.check r)).passed := rfl

/-- Such rules redact the records that have their columns, and no others. -/
theorem exists_redactWith_iff {rules : List Rule} {r : Record}
    (hrules : ∀ rule ∈ rules, rule.RestsOnColumn) :
    (∃ r', redactWith r rules = .ok r') ↔ ∀ rule ∈ rules, rule.column ∈ r.columns := by
  induction rules generalizing r with
  | nil => exact ⟨fun _ rule hm => absurd hm List.not_mem_nil, fun _ => ⟨r, rfl⟩⟩
  | cons rule rules ih =>
    have hrule := hrules rule List.mem_cons_self
    have ih (s : Record) := @ih s fun rule hm => hrules rule (List.mem_cons_of_mem _ hm)
    rw [List.forall_mem_cons]
    constructor
    · rintro ⟨r', h⟩
      obtain ⟨target, v, hredact, hrest⟩ := redactWith_cons_ok_iff.1 h
      refine ⟨Classical.byContradiction fun hmissing => ?_, ?_⟩
      · exact hrule.stops r hmissing target v hredact
      · rw [← Rule.columns_put_of_redact hredact]
        exact (ih _).1 ⟨r', hrest⟩
    · rintro ⟨hfirst, hothers⟩
      obtain ⟨target, v, hredact⟩ := hrule.redacts r hfirst
      rw [← Rule.columns_put_of_redact hredact] at hothers
      obtain ⟨r', hrest⟩ := (ih _).2 hothers
      exact ⟨r', redactWith_cons_ok_iff.2 ⟨target, v, hredact, hrest⟩⟩

/-! ## Batches -/

/-- What a quarantined record becomes: it is redacted if it has the columns, and otherwise
it stays as it is. -/
structure Quarantined.Becomes (q : Quarantined) (columns : List String) (p : Processed) : Prop where
  redacted : p.isRedacted = true ↔ ∀ c ∈ columns, c ∈ q.record.columns
  unchanged : (∃ c ∈ columns, c ∉ q.record.columns) → p.record = q.record ∧
    ∃ rule reason, p.redaction = .failed rule reason
  failedRules : p.failedRules = q.failedRules

/-- That every quarantined record of a batch is written out, redacted if it has the columns. -/
structure BatchOutcome.PassesThrough (o : BatchOutcome) (columns : List String) : Prop where
  processed : o.processed = o.quarantined.map o.plan.process
  becomes : ∀ q ∈ o.quarantined, q.Becomes columns (o.plan.process q)

theorem BatchOutcome.PassesThrough.map_isRedacted {o : BatchOutcome} {columns : List String}
    (h : o.PassesThrough columns) : o.processed.map Processed.isRedacted =
      o.quarantined.map fun q => decide (∀ c ∈ columns, c ∈ q.record.columns) := by
  rw [h.processed, List.map_map]
  refine List.map_congr_left fun q hq => ?_
  rw [Bool.eq_iff_iff, decide_eq_true_iff]
  exact (h.becomes q hq).redacted

section

variable {rules : RuleSet} {columns : List String}

/-- A rule of the set that a quarantined record of a batch does not pass is in the plan. -/
theorem BatchOutcome.mem_plan_after {time : Instant} {history : List Event} {id : String}
    {records : List Record} {q : Quarantined}
    (hq : q ∈ (after rules time history id records).quarantined) {rule : Rule}
    (hm : rule ∈ rules.rules) (h : (rule.judge q.record).passed = false) :
    rule ∈ (after rules time history id records).plan.rules := by
  have hlists : rule.name ∈ q.failedRules := by
    rw [quarantined_after, quarantined_routeAll] at hq
    obtain ⟨r, -, rfl⟩ := List.mem_map.1 hq
    exact (RuleSet.name_mem_failing hm).2 h
  have hname := (covered_after rules time history id records).selected q hq _ hlists
  obtain ⟨hcontains, -⟩ := Plan.mem_names_select.1 hname
  exact List.mem_filter.2 ⟨hm, hcontains⟩

/-- Where all rules rest on their columns, what becomes of a quarantined record depends on the
columns that it has, and on nothing else that came with it or before it. -/
theorem BatchOutcome.passesThrough_after (hrules : ∀ rule ∈ rules.rules, rule.RestsOnColumn)
    (hcolumns : ∀ c, c ∈ columns ↔ ∃ rule ∈ rules.rules, rule.column = c) (time : Instant)
    (history : List Event) (id : String) (records : List Record) :
    (after rules time history id records).PassesThrough columns := by
  refine ⟨rfl, fun q hq => ?_⟩
  generalize hplan : (after rules time history id records).plan = plan
  have hfrom : ∀ rule ∈ plan.rules, rule ∈ rules.rules := by
    rw [← hplan]
    exact fun rule hm => (List.mem_filter.1 hm).1
  have hsuccess := exists_redactWith_iff (r := q.record)
    fun rule hm => hrules rule (hfrom rule hm)
  -- a rule of a missing column is not passed, and so it is in the plan
  have hall : (∀ rule ∈ plan.rules, rule.column ∈ q.record.columns) ↔
      ∀ c ∈ columns, c ∈ q.record.columns := by
    constructor
    · intro h c hc
      obtain ⟨rule, hm, rfl⟩ := (hcolumns c).1 hc
      refine Classical.byContradiction fun hmissing => hmissing (h rule ?_)
      exact hplan ▸ mem_plan_after hq hm ((hrules rule hm).refuses q.record hmissing)
    · intro h rule hm
      exact h _ ((hcolumns _).2 ⟨rule, hfrom rule hm, rfl⟩)
  refine ⟨?_, ?_, plan.failedRules_process q⟩
  · rw [← hall, ← hsuccess, Plan.isRedacted_process, Plan.redact]
    cases redactWith q.record plan.rules <;> simp [Except.toOption]
  · rintro ⟨c, hc, hmissing⟩
    cases hredact : plan.redact q.record with
    | ok r' => exact absurd (hall.1 (hsuccess.1 ⟨r', hredact⟩) c hc) hmissing
    | error e =>
      unfold Plan.process
      rw [hredact]
      exact ⟨rfl, _, _, rfl⟩

end

/-! ## The standard table -/

namespace Expr

variable {r : Record} {c : String}

theorem exists_eval_column (h : c ∈ r.columns) : ∃ v, (column c).eval r = .ok v := by
  have hsome := (isSome_get? r c).trans (List.contains_iff_mem.2 h)
  obtain ⟨v, hv⟩ := Option.isSome_iff_exists.1 hsome
  refine ⟨v, ?_⟩
  rw [eval, hv]

theorem eval_column_of_missing (h : c ∉ r.columns) :
    (column c).eval r = .error (.missingColumn c) := by
  have hnone := (isSome_get? r c).trans (Bool.eq_false_iff.2 (mt List.contains_iff_mem.1 h))
  rw [Option.isSome_eq_false_iff, Option.isNone_iff_eq_none] at hnone
  rw [eval, hnone]

theorem exists_orNull {α : Type} (a : Option α) {f : α → Except ExprError Value}
    (h : ∀ x, ∃ v, f x = .ok v) : ∃ v, orNull a f = .ok v := by
  cases a with
  | none => exact ⟨.null, rfl⟩
  | some x => exact h x

/-- Replacing in the text of a column gives a value, whatever the column has. -/
theorem exists_eval_regexpReplace (h : c ∈ r.columns) (p : Pattern) (put : String) :
    ∃ v, (regexpReplace (column c) p (literal (.string put))).eval r = .ok v := by
  obtain ⟨v, hv⟩ := exists_eval_column h
  rw [eval, hv]
  refine exists_orNull v.text? fun s => ⟨.string (p.replaceAll s put), ?_⟩
  rw [eval]
  rfl

/-- So does taking a part of it. -/
theorem exists_eval_substr (h : c ∈ r.columns) {pos len : Value} {i j : Int}
    (hpos : integerOf pos = .ok (some i)) (hlen : integerOf len = .ok (some j)) :
    ∃ v, (substr (column c) (literal pos) (literal len)).eval r = .ok v := by
  obtain ⟨v, hv⟩ := exists_eval_column h
  rw [eval, hv]
  refine exists_orNull v.text? fun s => ⟨.string (substrText s i j), ?_⟩
  rw [eval, eval]
  dsimp only [bind, Except.bind]
  rw [hpos, hlen]
  rfl

theorem exists_concatText {es : List Expr} (h : ∀ e ∈ es, ∃ v, e.eval r = .ok v) :
    ∃ s, concatText r es = .ok s := by
  induction es with
  | nil => exact ⟨some "", by rw [concatText]⟩
  | cons e es ih =>
    obtain ⟨v, hv⟩ := h e List.mem_cons_self
    obtain ⟨rest, hrest⟩ := ih fun e he => h e (List.mem_cons_of_mem _ he)
    rw [concatText, hv, hrest]
    cases hs : v.text? with
    | none =>
      refine ⟨none, ?_⟩
      dsimp only [bind, Except.bind]
      rw [hs]
      rfl
    | some s =>
      refine ⟨rest.map (s ++ ·), ?_⟩
      dsimp only [bind, Except.bind]
      rw [hs]
      rfl

/-- And so does putting values one after the other. -/
theorem exists_eval_concat {es : List Expr} (h : ∀ e ∈ es, ∃ v, e.eval r = .ok v) :
    ∃ v, (concat es).eval r = .ok v := by
  obtain ⟨s, hs⟩ := exists_concatText h
  rw [eval, hs]
  exact ⟨_, rfl⟩

end Expr

namespace RuleTable

/-- Every action of the standard table can be done where its column is. -/
theorem exists_eval_standard {t : Template} (ht : t ∈ standard.templates) (column : String) :
    ∃ e, (Rule.expand t column).redaction = .ok ⟨e, column⟩ ∧
      ∀ r : Record, column ∈ r.columns → ∃ v, e.eval r = .ok v := by
  rcases List.mem_cons.1 ht with rfl | ht
  · refine ⟨_, redaction_lastThree rfl column, fun r hc => Expr.exists_eval_concat fun e he => ?_⟩
    rcases List.mem_cons.1 he with rfl | he
    · exact ⟨_, by rw [Expr.eval]⟩
    · rw [List.mem_singleton.1 he]
      exact Expr.exists_eval_substr hc (i := -3) (j := 3) rfl rfl
  · rcases redaction_tail ht column with h | ⟨p, put, h, -⟩
    · exact ⟨_, h, fun r _ => ⟨redactedValue, by rw [Expr.eval]⟩⟩
    · exact ⟨_, h, fun r hc => Expr.exists_eval_regexpReplace hc p put⟩

theorem restsOnColumn_expand {t : Template} (ht : t ∈ standard.templates) (column : String) :
    (Rule.expand t column).RestsOnColumn where
  redacts := by
    intro r hc
    obtain ⟨e, hred, heval⟩ := exists_eval_standard ht column
    obtain ⟨v, hv⟩ := heval r hc
    exact ⟨column, v, Rule.redact_ok_iff.2 ⟨_, hred, rfl, hc, hv⟩⟩
  stops := by
    intro r hc target v h
    obtain ⟨e, hred⟩ := target_standard ht column
    obtain ⟨red, hred', rfl, hmem, -⟩ := Rule.redact_ok_iff.1 h
    obtain rfl := Except.ok.inj (hred.symm.trans hred')
    exact hc hmem
  refuses := by
    intro r hc
    obtain ⟨p, hpredicate, -⟩ := predicate_standard ht column
    have hc : column ∉ r.columns := hc
    have heval : (Expr.castText (.column column)).eval r = .error (.missingColumn column) := by
      rw [Expr.eval, Expr.eval_column_of_missing hc]
      rfl
    have hholds : Predicate.holds ⟨.castText (.column column), p, true⟩ r =
        .error (.missingColumn column) := by
      unfold Predicate.holds
      rw [heval]
      rfl
    have hcheck : (Rule.expand t column).check r =
        .error (.evaluation (Rule.expand t column).name (.missingColumn column)) := by
      unfold Rule.check
      rw [hpredicate]
      dsimp only
      rw [hholds]
    rw [Rule.passed_judge, hcheck]
    rfl

end RuleTable

namespace RuleSet

variable {columns : List String} {rules : RuleSet}

theorem restsOnColumn_of_compile (h : compile .standard columns = .ok rules) {rule : Rule}
    (hm : rule ∈ rules.rules) : rule.RestsOnColumn := by
  obtain ⟨c, -, t, ht, rfl⟩ := (mem_of_compile h).1 hm
  exact RuleTable.restsOnColumn_expand ht c

/-- Every column has a rule of its own. -/
theorem mem_columns_standard (h : compile .standard columns = .ok rules) (c : String) :
    c ∈ columns ↔ ∃ rule ∈ rules.rules, rule.column = c := by
  constructor
  · intro hc
    have ht : RuleTable.standard.templates ≠ [] := List.cons_ne_nil _ _
    obtain ⟨t, ht⟩ := List.exists_mem_of_ne_nil _ ht
    exact ⟨_, (mem_of_compile h).2 ⟨c, hc, t, ht, rfl⟩, rfl⟩
  · rintro ⟨rule, hm, rfl⟩
    obtain ⟨c, hc, t, -, rfl⟩ := (mem_of_compile h).1 hm
    exact hc

theorem passesThrough_of_compile (h : compile .standard columns = .ok rules) (time : Instant)
    (history : List Event) (id : String) (records : List Record) :
    (BatchOutcome.after rules time history id records).PassesThrough columns :=
  BatchOutcome.passesThrough_after (fun _ => restsOnColumn_of_compile h) (mem_columns_standard h)
    time history id records

end RuleSet

/-! ## Lists and runners -/

/-- A batch that is reported is in the parts of its number as some outcome has it. -/
theorem Runner.exists_processed_part {r r' : Runner} {batch : InputBatch} {s : Surroundings}
    {fates rest : List Fate} {d d' : Disk} {report : BatchReport}
    (h : Action.runUnder s (r.runBatch batch).run fates d =
      ⟨some (.ok (report, r')), rest, d'⟩) :
    ∃ entryId time, let o := r.outcome entryId time batch
      o.processed ≠ [] → r.layout.partFile? d' .processed r.checkpoint.next =
        some (Rows.render (o.processed.map Processed.toValue)).toUTF8 := by
  obtain ⟨entryId, time, hparts⟩ := parts_of_report h
  refine ⟨entryId, time, fun hsome => ?_⟩
  rw [hparts, if_pos rfl, if_neg]
  · rfl
  · exact mt List.map_eq_nil_iff.1 hsome

/-- With the standard table, whatever the columns are called, whatever the records hold and
whatever failed before, a quarantined record is written out redacted if it has all the columns
that the rules are for, and exactly as it came, with the failure, if it has not. -/
theorem standard_passes_through :
    (∀ time columns records rules,
      RuleSet.compile .standard (schemaColumns columns records) = .ok rules →
      ∃ o, processRecords time .standard columns records = .ok o ∧
        o.PassesThrough (schemaColumns columns records)) ∧
    ∀ columns (r : Runner) (batch : InputBatch),
      RuleSet.compile .standard columns = .ok r.rules → r.frozen = none →
      (∀ entryId time, (r.outcome entryId time batch).PassesThrough columns) ∧
      ∀ s fates rest d d' report r', Action.runUnder s (r.runBatch batch).run fates d =
          ⟨some (.ok (report, r')), rest, d'⟩ →
        ∃ entryId time, let o := r.outcome entryId time batch
          o.processed ≠ [] → r.layout.partFile? d' .processed r.checkpoint.next =
            some (Rows.render (o.processed.map Processed.toValue)).toUTF8 := by
  refine ⟨?_, ?_⟩
  · intro time columns records rules hcompiled
    exact ⟨_, processRecords_ok_iff.2 ⟨rules, hcompiled, rfl⟩,
      RuleSet.passesThrough_of_compile hcompiled ..⟩
  · intro columns r batch hcompiled hpolicy
    refine ⟨fun entryId time => ?_, ?_⟩
    · rw [Runner.outcome_eq_after hpolicy]
      exact RuleSet.passesThrough_of_compile hcompiled ..
    · intro s fates rest d d' report r' h
      exact Runner.exists_processed_part h

/-! ### A case -/

/-- A security code, and a record without the column. -/
def standardBatch : InputBatch where
  source := "a.ndjson"
  records := [Record.empty.put "c" (.string "123"), Record.empty.put "d" .null]

theorem quarantined_standardBatch {rules : RuleSet}
    (h : RuleSet.compile .standard ["c"] = .ok rules) :
    (routeAll rules standardBatch.records).quarantined =
      standardBatch.records.map fun r => ⟨r, rules.failing r⟩ := by
  have hrefused {t : Template} (ht : t ∈ RuleTable.standard.templates) {r : Record}
      (hjudge : ((Rule.expand t "c").judge r).passed = false) : (!rules.accepts r) = true := by
    have hm := (RuleSet.mem_of_compile h).2 ⟨"c", List.mem_singleton_self _, t, ht, rfl⟩
    rw [RuleSet.accepts_eq_false hm hjudge]
    rfl
  rw [quarantined_routeAll, List.filter_eq_self.2 fun r hr => ?_]
  rcases List.mem_cons.1 hr with rfl | hr
  · exact hrefused (t := RuleTable.standard.templates[3]) (List.getElem_mem _) (by decide +kernel)
  · obtain rfl := List.mem_singleton.1 hr
    have hfirst := List.getElem_mem (l := RuleTable.standard.templates) (n := 0) (by decide)
    exact hrefused hfirst ((RuleTable.restsOnColumn_expand hfirst "c").refuses _
      (show "c" ∉ ["d"] by decide))

/-- Of two quarantined records the one with the column is redacted, and both are in the part. -/
theorem standard_passes_through_sample : ∃ (o : BatchOutcome) (r : Runner) (d : Disk),
    processRecords .epoch .standard (some ["c"]) standardBatch.records = .ok o ∧
    o.PassesThrough ["c"] ∧ o.processed.map Processed.isRedacted = [true, false] ∧
    RuleSet.compile .standard ["c"] = .ok r.rules ∧ r.frozen = none ∧
    ∃ report r' d', Action.runUnder ⟨.epoch, ""⟩ (r.runBatch standardBatch).run [] d =
        ⟨some (.ok (report, r')), [], d'⟩ ∧
      ∃ entryId time, (r.outcome entryId time standardBatch).PassesThrough ["c"] ∧
        r.layout.partFile? d' .processed r.checkpoint.next = some (Rows.render
          ((r.outcome entryId time standardBatch).processed.map Processed.toValue)).toUTF8 := by
  have hsome : (RuleSet.compile .standard ["c"]).toOption.isSome = true := by decide +kernel
  obtain ⟨rules, hrules⟩ := Option.isSome_iff_exists.1 hsome
  have hrules := Workload.eq_ok_of_toOption hrules
  have hquarantined := quarantined_standardBatch hrules
  obtain ⟨o, hprocess, hpasses⟩ :=
    standard_passes_through.1 .epoch (some ["c"]) standardBatch.records rules hrules
  obtain ⟨rules', hrules', rfl⟩ := processRecords_ok_iff.1 hprocess
  obtain rfl := Except.ok.inj (hrules.symm.trans hrules')
  -- a runner on a root of which nothing is there
  have hk := Layout.keeps_of_empty emptyRoot_sample
  obtain ⟨r, d, hopen⟩ := runUnder_nil_of_succeeds (Runner.succeeds_open_of_ensure hk
    succeeds_ensure_sample rules Runner.sample.source Runner.sample.options)
  obtain ⟨hk', -, rfl, hup⟩ := (Runner.ensures_open_keeps hk rules _ _).result hopen
  obtain ⟨⟨report, r'⟩, d', hrun⟩ := runUnder_nil_of_succeeds
    (hup.succeeds_runBatch (s := ⟨.epoch, ""⟩) hk' (by decide) standardBatch)
  have hpolicy : (Runner.resumed rules Runner.sample.source Runner.sample.layout
      Runner.sample.options []).frozen = none := rfl
  obtain ⟨hall, hparts⟩ := standard_passes_through.2 ["c"] _ standardBatch hrules hpolicy
  obtain ⟨entryId, time, hpart⟩ := hparts _ _ _ _ _ _ _ hrun
  refine ⟨_, _, d, hprocess, hpasses, ?_, hrules, rfl, report, r', d', hrun, entryId, time,
    hall entryId time, hpart ?_⟩
  · have hcolumns : (standardBatch.records.map fun r =>
        decide (∀ c ∈ ["c"], c ∈ r.columns)) = [true, false] := by decide +kernel
    rw [hpasses.map_isRedacted, BatchOutcome.quarantined_after, hquarantined, List.map_map]
    exact hcolumns
  · rw [(hall entryId time).processed]
    refine mt List.map_eq_nil_iff.1 ?_
    rw [Runner.outcome, BatchOutcome.quarantined_of]
    exact hquarantined ▸ List.cons_ne_nil _ _

end Quarantine
