import Mathlib.Data.List.Basic
import Quarantine.Proofs.CommandLine.Success
import Quarantine.Proofs.Pipeline.Orderly

/-!
# Redacting again what was committed

Redacting again goes through the quarantine of the committed batches with a single plan, the one
for their whole history.  A runner that selects for each batch had that plan for the last of them
only, and for the batches before it a part of it.

    rows of the last batch       as they are stored
    rows of a batch before it    redacted by the rules that were selected then, and by others
-/

namespace Quarantine

open Quarantine.Disk Quarantine.Job

variable {l : Layout} {start : Disk} {left : Bool} {hs before after : List Happening}
  {cs : List Commit} {x : World} {rules : RuleSet} {batch : InputBatch} {report : BatchReport}

/-! ## Plans -/

/-- The plan for the whole history selects the rules that some committed record does not pass. -/
theorem Chronicle.names_plan (h : Chronicle l hs cs x) (hrules : ∀ c ∈ cs, c.rules = rules) :
    (Plan.ofEvents (historyOf cs) rules).names = rules.failingIn (recordsOf hs).flatten := by
  rw [← h.records]
  exact names_select_historyOf hrules

/-- What is selected for a batch is selected by all that is committed with it or later. -/
theorem ToldBy.sublist (h : ToldBy rules before batch report) (after : List Happening) :
    report.selected.Sublist
      (rules.failingIn (recordsOf (before ++ .committed batch report :: after)).flatten) := by
  obtain ⟨earlier, frozen, session, hbefore, -, hselected⟩ := h
  rw [hselected]
  apply RuleSet.failingIn_sublist
  intro r hr
  exact mem_recordsOf_of_telling hbefore report after hr

/-- What is selected for each batch is told by the records up to it. -/
theorem ToldBy.selected_of_unfrozen (h : ToldBy rules before batch report)
    (hunfrozen : Unfrozen before) :
    report.selected = rules.failingIn (recordsOf before ++ [batch.records]).flatten := by
  obtain ⟨earlier, frozen, session, hbefore, -, hselected⟩ := h
  have hopened : .opened rules frozen ∈ before := by
    rw [hbefore]
    exact List.mem_append_right _ List.mem_cons_self
  obtain rfl := hunfrozen rules frozen hopened
  exact hselected

/-! ## The last batch -/

/-- After the last batch come no more records. -/
theorem recordsOf_of_last (hsplit : hs = before ++ .committed batch report :: after)
    (hlast : recordsOf after = []) : recordsOf hs = recordsOf before ++ [batch.records] := by
  rw [hsplit, ← List.singleton_append, recordsOf_append, recordsOf_append, hlast, List.append_nil]
  rfl

/-- The batch after which nothing was committed is that of the last commit. -/
theorem Chronicle.exists_last (h : Chronicle l hs cs x)
    (hsplit : hs = before ++ .committed batch report :: after) (hlast : recordsOf after = []) :
    ∃ front c, cs = front ++ [c] ∧ front.length = (recordsOf before).length ∧
      c.batch.records = batch.records := by
  have hrecords : (cs.map fun c => c.batch.records) = recordsOf before ++ [batch.records] := by
    rw [h.records]
    exact recordsOf_of_last hsplit hlast
  obtain ⟨front, last, hcs, hfront, hc⟩ := List.map_eq_append_iff.1 hrecords
  obtain ⟨c, rfl, hrecords⟩ := List.map_eq_singleton_iff.1 hc
  refine ⟨front, c, hcs, ?_, hrecords⟩
  rw [← hfront, List.length_map]

/-- The processed rows of a commit are its quarantined records, by the plan that it had. -/
theorem Commit.rows_processed (c : Commit) : c.outcome.rows .processed =
    ((routeAll c.rules c.batch.records).quarantined.map
      (Plan.select c.failed c.rules).process).map Processed.toValue := by
  unfold outcome BatchOutcome.of BatchOutcome.rows
  rw [routeParallel_eq]

/-! ## Rows -/

/-- The rows of what rules quarantine of batches, redacted by one plan. -/
def rowsOf (rules : RuleSet) (plan : Plan) (batches : List (List Record)) : List Processed :=
  batches.flatMap fun records => (routeAll rules records).quarantined.map plan.process

/-- The quarantined records of the commits, redacted by one plan. -/
theorem Chronicle.rowsOf_eq (h : Chronicle l hs cs x) (hrules : ∀ c ∈ cs, c.rules = rules)
    (plan : Plan) : rowsOf rules plan (recordsOf hs) =
      (cs.flatMap fun c => (routeAll c.rules c.batch.records).quarantined).map plan.process := by
  rw [rowsOf, ← h.records, List.flatMap_map, List.map_flatMap]
  apply List.flatMap_congr
  intro c hc
  rw [hrules c hc]

/-- The last batch is stored as it is redacted by the plan for the whole history. -/
theorem Tidy.holds_last (h : Tidy l left hs cs x) (hunfrozen : Unfrozen hs)
    (hrules : ∀ c ∈ cs, c.rules = rules)
    (hsplit : hs = before ++ .committed batch report :: after) (hlast : recordsOf after = []) :
    l.Holds x.disk .processed (recordsOf before).length
      ((rowsOf rules (.ofEvents (historyOf cs) rules) [batch.records]).map Processed.toValue) := by
  obtain ⟨front, c, hcs, hlength, hrecords⟩ := h.chronicle.exists_last hsplit hlast
  have hc : cs[front.length]? = some c := by
    rw [hcs]
    exact List.getElem?_concat_length
  have hfailed : c.failed = .ofEvents (historyOf cs) := by
    rw [hcs]
    exact h.perBatch hunfrozen front c [] hcs
  have hholds := h.exact.holds h.chronicle.keeps hc .processed
  rw [c.rows_processed, hfailed, hrules c (List.mem_of_getElem? hc), hrecords, hlength] at hholds
  rw [rowsOf, List.flatMap_singleton]
  exact hholds

namespace CommandLine.ReprocessCommand

open Session

/-- What redacting again does where some batches were committed. -/
structure Extends (c : ReprocessCommand) (rules : RuleSet) (hs : List Happening) (d : Disk)
    (plan : Plan) : Prop where
  /-- The plan is that for the history that the metrics show. -/
  history : ∃ history, plan = .ofEvents history rules ∧
    ∀ s t, outcome s (loadHistory c.layout) t d = ((.ok history, t), d)
  /-- It has the rules that some committed record does not pass. -/
  names : plan.names = rules.failingIn (recordsOf hs).flatten
  /-- There is a row for each quarantined record of each batch, redacted by this plan. -/
  emits : ∀ s t, ∃ t' d', outcome s c.perform t d = ((.ok (), t'), d') ∧
    c.Emits (rowsOf rules plan (recordsOf hs)) t t' d'
  /-- If something is refused on the way, there are these rows or the command fails. -/
  emitsUnder : ∀ s t, Session.Ensures s
    (fun _ t' d' => c.Emits (rowsOf rules plan (recordsOf hs)) t t' d') c.perform t d
  /-- The last batch had the same plan, and its rows are those that are stored. -/
  last : ∀ before batch report after, hs = before ++ .committed batch report :: after →
    recordsOf after = [] → report.selected = plan.names ∧
      c.layout.Holds d .processed report.batch
        ((rowsOf rules plan [batch.records]).map Processed.toValue)
  /-- The rules of every batch are among those of the plan, in the same order. -/
  grows : ∀ before batch report after, hs = before ++ .committed batch report :: after →
    report.selected.Sublist plan.names

/-- What the command reads is what was committed, and the rules are those given. -/
theorem reads_of_tidy {c : ReprocessCommand} {table : RuleTable}
    (h : Tidy c.layout left hs cs x) (htable : c.rules.Loads x.disk table)
    (hcolumns : c.rules.columns ≠ []) (hrules : RuleSet.compile table c.rules.columns = .ok rules)
    (hstorable : ∀ records ∈ recordsOf hs, ∀ r ∈ records, r.Storable) :
    c.Reads x.disk ⟨table, checkpointOf cs,
      cs.flatMap fun c => (routeAll c.rules c.batch.records).quarantined, historyOf cs, rules⟩ where
  table := htable
  checkpoint := h.chronicle.keeps.foundAt
  quarantined := by
    refine h.exact.shows_quarantine h.chronicle.keeps fun commit hc => ?_
    apply hstorable
    rw [← h.chronicle.records]
    exact List.mem_map_of_mem hc
  history := h.chronicle.keeps.shows_history
  rules := by
    rw [RuleChoice.columnsOr_of_ne_nil hcolumns]
    exact hrules

/-- Where batches were committed with one rule set, each with a selection of its own, redacting
again with the same table and columns extends them. -/
theorem exists_extends {c : ReprocessCommand} {table : RuleTable}
    (hempty : EmptyRoot start c.layout.root) (h : Orderly c.layout start left hs x)
    (hcolumns : c.rules.columns ≠ []) (hcompiled : RuleSet.compile table c.rules.columns = .ok rules)
    (hopened : ∀ rules' frozen, .opened rules' frozen ∈ hs → rules' = rules ∧ frozen = false)
    (hrecords : ∀ records ∈ recordsOf hs, ∀ r ∈ records,
      r.Regular ∧ r.toValue.nests (Json.maxDepth - 1) = true)
    (htable : c.rules.Loads x.disk table) (hemit : c.CanEmit x.disk) :
    ∃ plan, c.Extends rules hs x.disk plan := by
  obtain ⟨cs, hcs⟩ := h.exists_tidy hempty
  have hrules : ∀ commit ∈ cs, commit.rules = rules := by
    intro commit hc
    obtain ⟨frozen, hmem⟩ := hcs.chronicle.rules commit hc
    exact (hopened _ _ hmem).1
  have hunfrozen : Unfrozen hs := fun rules' frozen hmem => (hopened rules' frozen hmem).2
  have hstorable : ∀ records ∈ recordsOf hs, ∀ r ∈ records, r.Storable := by
    intro records hmem r hr
    obtain ⟨hregular, hnests⟩ := hrecords records hmem r hr
    exact hregular.storable hnests
  have htold := h.life.told hempty fun rules' frozen hmem => (hopened rules' frozen hmem).1
  have hreads := reads_of_tidy hcs htable hcolumns hcompiled hstorable
  have hrows := hcs.chronicle.rowsOf_eq hrules (.ofEvents (historyOf cs) rules)
  have hnames := hcs.chronicle.names_plan hrules
  refine ⟨.ofEvents (historyOf cs) rules, ⟨historyOf cs, rfl, fun s t => ?_⟩, hnames,
    fun s t => ?_, fun s t => ?_, fun before batch report after hsplit hlast => ⟨?_, ?_⟩,
    fun before batch report after hsplit => ?_⟩
  · exact outcome_loadHistory hreads.checkpoint hreads.history
  · rw [hrows]
    exact hreads.exists_outcome hemit s t
  · refine c.ensures_perform.mono ?_
    rintro _ t' d' ⟨y, hy, hemits⟩
    obtain rfl := hreads.unique hy
    rw [hrows]
    exact hemits
  · have hbefore : Unfrozen before := by
      rw [hsplit] at hunfrozen
      exact hunfrozen.of_append
    rw [(htold before batch report after hsplit).selected_of_unfrozen hbefore, hnames,
      recordsOf_of_last hsplit hlast]
  · rw [h.life.batch_eq hempty hsplit]
    exact hcs.holds_last hunfrozen hrules hsplit hlast
  · rw [hnames, hsplit]
    exact (htold before batch report after hsplit).sublist after

/-! ### A case -/

/-- The quarantine of a root, by the standard rules for one column. -/
def sample : ReprocessCommand := ⟨Runner.sample.layout.root, ⟨none, ["c"]⟩, none⟩

/-- The standard rules for one column. -/
def sampleRules : RuleSet := (RuleSet.compile .standard ["c"]).toOption.getD .empty

/-- A value that one of the rules does not pass. -/
def sampleBatch : InputBatch := ⟨"a.ndjson", [⟨[("c", .string "123-45-6789")], by decide⟩]⟩

/-- A runner commits the value, and another one a record that no rule passes. -/
def sampleSeen (report report' : BatchReport) : List Happening :=
  [.opened sampleRules false, .committed sampleBatch report,
    .opened sampleRules false, .committed Runner.sampleBatch report']

theorem compiled_sample : RuleSet.compile .standard sample.rules.columns = .ok sampleRules := by
  have hcompiled : (RuleSet.compile .standard ["c"]).toOption.isSome = true := by decide +kernel
  obtain ⟨found, hfound⟩ := Option.isSome_iff_exists.1 hcompiled
  rw [sampleRules, hfound]
  exact Workload.eq_ok_of_toOption hfound

theorem exists_orderly_sample : ∃ x report report',
    Orderly sample.layout .empty false (sampleSeen report report') x := by
  have h64 : 1 < 0x10000000000000000 := by decide
  obtain ⟨x₀, r₀, m₀, hr₀⟩ := exists_opened emptyRoot_sample succeeds_ensure_sample sampleRules
    Runner.sample.source Runner.sample.options
  have h₀ := Orderly.begun.opened m₀
  obtain ⟨report, x₁, r₁, m₁, hr₁⟩ :=
    h₀.life.exists_committed emptyRoot_sample hr₀ (by decide) sampleBatch
  have h₁ := h₀.committed m₁
  obtain ⟨x₂, r₂, m₂, hr₂⟩ := h₁.life.exists_reopened emptyRoot_sample hr₁ sampleRules
    Runner.sample.source Runner.sample.options
  have h₂ := h₁.opened m₂
  obtain ⟨report', x₃, r₃, m₃, -⟩ :=
    h₂.life.exists_committed emptyRoot_sample hr₂ h64 Runner.sampleBatch
  exact ⟨x₃, report, report', h₂.committed m₃⟩

theorem storable_sample :
    ∀ r ∈ [sampleBatch.records, Runner.sampleBatch.records].flatten, r.Storable := by
  intro r hr
  refine Record.storable_iff.2 fun f hf => ?_
  simp only [sampleBatch, Runner.sampleBatch, List.flatten_cons, List.flatten_nil,
    List.append_nil, List.singleton_append, List.mem_cons, List.not_mem_nil, or_false] at hr
  rcases hr with rfl | rfl | rfl
  all_goals
    rw [List.mem_singleton.1 hf]
    exact ⟨rfl, rfl⟩

/-- The rule that the value does not pass is one of those that redact both batches again. -/
theorem extends_sample : ∃ x report report' plan,
    RuleSet.compile .standard sample.rules.columns = .ok sampleRules ∧
    Orderly sample.layout .empty false (sampleSeen report report') x ∧
    sample.Extends sampleRules (sampleSeen report report') x.disk plan ∧
    "c may contain ssn" ∈ plan.names := by
  obtain ⟨x, report, report', h⟩ := exists_orderly_sample
  have hopened : ∀ rules' frozen, .opened rules' frozen ∈ sampleSeen report report' →
      rules' = sampleRules ∧ frozen = false := by
    intro rules' frozen hm
    simpa [sampleSeen] using hm
  obtain ⟨plan, hplan⟩ := exists_extends emptyRoot_sample h (List.cons_ne_nil _ _) compiled_sample
    hopened (fun records hm r hr => by
      have hstorable := storable_sample r (List.mem_flatten.2 ⟨records, hm, hr⟩)
      exact ⟨hstorable.regular, hstorable.nests⟩) rfl nofun
  refine ⟨x, report, report', plan, compiled_sample, h, hplan, ?_⟩
  have hfails : (sampleRules.rules[1]?.any fun rule => rule.name == "c may contain ssn" &&
      sampleBatch.records.any fun r => !(rule.judge r).passed) = true := by decide +kernel
  obtain ⟨rule, hrule, hfails⟩ := (Option.any_eq_true _ _).1 hfails
  rw [Bool.and_eq_true, beq_iff_eq] at hfails
  obtain ⟨hname, hfails⟩ := hfails
  obtain ⟨r, hr, hfails⟩ := List.any_eq_true.1 hfails
  rw [hplan.names, ← hname]
  refine List.mem_map_of_mem (List.mem_filter.2 ⟨List.mem_of_getElem? hrule, ?_⟩)
  exact List.any_eq_true.2 ⟨r, List.mem_append_left _ hr, hfails⟩

end CommandLine.ReprocessCommand
end Quarantine
