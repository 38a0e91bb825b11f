import Quarantine.Proofs.Pipeline.Coverage
import Quarantine.Proofs.Processing
import Quarantine.Proofs.Rule.Compilation

/-!
# Columns in another order

Columns in another order make the same rules in another order.  A record is judged by all of
them, and a rule fails in a batch or does not, so that the same rules are selected; but they
redact in another order.  If each keeps to its column, that does not show in the records.

    columns ~ columns'  →  the rules are the same, up to their order
                        →  the same rules fail in a batch
    rules keep to their columns  →  a record is redacted to the same, or left as it is by both
-/

namespace Quarantine

section

variable {table : RuleTable} {columns columns' : List String} {rules rules' : RuleSet}

/-! ## Rules in another order -/

namespace RuleSet

theorem expansions_perm (hperm : columns.Perm columns') :
    (expansions table columns).Perm (expansions table columns') :=
  hperm.flatMap_right _

theorem rules_perm (hperm : columns.Perm columns') (h : compile table columns = .ok rules)
    (h' : compile table columns' = .ok rules') : rules.rules.Perm rules'.rules := by
  rw [rules_of_compile h, rules_of_compile h']
  exact (expansions_perm hperm).map Prod.snd

/-- Whether two rules have one name does not depend on where they are. -/
theorem exists_compile_of_perm (hperm : columns.Perm columns')
    (h : ∃ rules, compile table columns = .ok rules) :
    ∃ rules', compile table columns' = .ok rules' := by
  have hexpansions : (expansions table columns).Perm (expansions table columns') :=
    expansions_perm hperm
  have hnames := hexpansions.map fun x => x.2.name
  rw [exists_compile_iff_firstDuplicate?, firstDuplicate?_eq_none_iff] at h ⊢
  exact ⟨hnames.nodup_iff.1 h.1, fun _ _ => List.not_mem_nil⟩

theorem accepts_of_perm (h : rules.rules.Perm rules'.rules) : rules.accepts = rules'.accepts := by
  funext r
  rw [accepts_eq, accepts_eq, h.all_eq]

theorem failing_perm (h : rules.rules.Perm rules'.rules) (r : Record) :
    (rules.failing r).Perm (rules'.failing r) := by
  rw [failing_eq, failing_eq]
  exact (h.filter _).map Rule.name

end RuleSet

/-! ## Selection -/

/-- The same rules fail among the events of a batch. -/
theorem FailedRules.ofEvents_progressEvents_of_perm (h : rules.rules.Perm rules'.rules)
    (time time' : Instant) (dataset : String) (records : List Record) :
    ofEvents (progressEvents time dataset rules (routeAll rules records).tallies) =
      ofEvents (progressEvents time' dataset rules' (routeAll rules' records).tallies) := by
  refine congrArg mk (Ascending.eq_of_contains fun name => ?_)
  exact contains_ofEvents_progressEvents.trans
    ((exists_congr fun rule => and_congr_left' h.mem_iff).trans
      contains_ofEvents_progressEvents.symm)

/-- The rules of a column that are selected, in the order of the table. -/
def RuleTable.selected (table : RuleTable) (failed : FailedRules) (c : String) : List Rule :=
  (table.templates.map fun t => Rule.expand t c).filter fun rule => failed.contains rule.name

/-- A plan has the rules of one column after the other. -/
theorem Plan.rules_select (h : RuleSet.compile table columns = .ok rules) (failed : FailedRules) :
    (Plan.select failed rules).rules = columns.flatMap (table.selected failed) := by
  unfold select RuleTable.selected
  rw [RuleSet.rules_of_compile h, RuleSet.expansions, List.map_flatMap, List.filter_flatMap]
  simp only [List.map_map]
  rfl

theorem RuleTable.ofColumn_selected (h : RuleSet.compile table columns = .ok rules)
    (hown : ∀ rule ∈ rules.rules, rule.OwnColumn) (failed : FailedRules) {c : String}
    (hc : c ∈ columns) : OfColumn c (table.selected failed c) := by
  intro rule hm
  obtain ⟨t, ht, rfl⟩ := List.mem_map.1 (List.mem_filter.1 hm).1
  exact ⟨rfl, hown _ ((RuleSet.mem_of_compile h).2 ⟨c, hc, t, ht, rfl⟩)⟩

/-- The plans for columns in two orders redact a record to the same, or leave it as it is. -/
theorem Plan.redact_of_perm (hperm : columns.Perm columns')
    (h : RuleSet.compile table columns = .ok rules)
    (h' : RuleSet.compile table columns' = .ok rules')
    (hown : ∀ rule ∈ rules.rules, rule.OwnColumn) (failed : FailedRules) (r : Record) :
    ((select failed rules).redact r).toOption = ((select failed rules').redact r).toOption := by
  unfold redact
  rw [rules_select h, rules_select h']
  exact redactWith_perm hperm (fun _ hc => table.ofColumn_selected h hown failed hc) r

/-! ## Batches -/

/-- That two outcomes have the same records in each list.  The names of failed rules may be listed
in another order, and a failed redaction may tell another reason. -/
structure BatchOutcome.SameRecords (o o' : BatchOutcome) : Prop where
  clean : o.clean = o'.clean
  quarantined : o.quarantined.map Quarantined.record = o'.quarantined.map Quarantined.record
  failedRules : ∀ (i : Nat) (q q' : Quarantined), o.quarantined[i]? = some q →
    o'.quarantined[i]? = some q' → q.failedRules.Perm q'.failedRules
  processed : o.processed.map (fun p => (p.record, p.isRedacted)) =
    o'.processed.map fun p => (p.record, p.isRedacted)

theorem BatchOutcome.sameRecords_after (hperm : columns.Perm columns')
    (h : RuleSet.compile table columns = .ok rules)
    (h' : RuleSet.compile table columns' = .ok rules')
    (hown : ∀ rule ∈ rules.rules, rule.OwnColumn) (time time' : Instant) (id id' : String)
    (records : List Record) :
    (after rules time [] id records).SameRecords (after rules' time' [] id' records) := by
  have hrules := RuleSet.rules_perm hperm h h'
  have haccepts := RuleSet.accepts_of_perm hrules
  have hfailed := FailedRules.ofEvents_progressEvents_of_perm hrules time time' cleanDataset records
  refine ⟨?_, ?_, fun i q q' hq hq' => ?_, ?_⟩
  · rw [clean_after, clean_after, clean_routeAll, clean_routeAll, haccepts]
  · rw [quarantined_after, quarantined_after, quarantined_routeAll, quarantined_routeAll,
      List.map_map, List.map_map, haccepts]
    rfl
  · rw [quarantined_after, quarantined_routeAll, haccepts, List.getElem?_map] at hq
    rw [quarantined_after, quarantined_routeAll, List.getElem?_map] at hq'
    obtain ⟨r, hr, rfl⟩ := Option.map_eq_some_iff.1 hq
    obtain ⟨r', hr', rfl⟩ := Option.map_eq_some_iff.1 hq'
    obtain rfl := Option.some.inj (hr.symm.trans hr')
    exact RuleSet.failing_perm hrules r
  · rw [processed_after, processed_after, quarantined_routeAll, quarantined_routeAll,
      List.nil_append, List.nil_append, hfailed, haccepts]
    simp only [List.map_map]
    refine List.map_congr_left fun r _ => ?_
    have hredact := Plan.redact_of_perm hperm h h' hown
      (.ofEvents (progressEvents time' cleanDataset rules' (routeAll rules' records).tallies)) r
    simp only [Function.comp_apply, Plan.record_process, Plan.isRedacted_process, hredact]

end

/-- For a table whose rules keep to their columns the order of the columns does not matter: both
orders are refused, or the records come to the same in both. -/
theorem processRecords_of_columns_perm {table : RuleTable} {columns columns' : List String}
    (hperm : columns.Perm columns')
    (hown : ∀ rules, RuleSet.compile table columns = .ok rules →
      ∀ rule ∈ rules.rules, rule.OwnColumn)
    (time time' : Instant) (records : List Record) :
    Alike (fun _ _ => True) BatchOutcome.SameRecords
      (processRecords time table (some columns) records)
      (processRecords time' table (some columns') records) := by
  have hprocess {time : Instant} {columns : List String} {rules : RuleSet}
      (h : RuleSet.compile table columns = .ok rules) :
      processRecords time table (some columns) records =
        .ok (BatchOutcome.after rules time [] "" records) :=
    processRecords_ok_iff.2 ⟨rules, h, rfl⟩
  cases h : processRecords time table (some columns) records with
  | ok o =>
    obtain ⟨rules, hrules, rfl⟩ := processRecords_ok_iff.1 h
    obtain ⟨rules', hrules'⟩ := RuleSet.exists_compile_of_perm hperm ⟨rules, hrules⟩
    rw [hprocess hrules']
    exact .ok (BatchOutcome.sameRecords_after hperm hrules hrules' (hown rules hrules) ..)
  | error e =>
    cases h' : processRecords time' table (some columns') records with
    | error e' => exact .error trivial
    | ok o' =>
      obtain ⟨rules', hrules', -⟩ := processRecords_ok_iff.1 h'
      obtain ⟨rules, hrules⟩ := RuleSet.exists_compile_of_perm hperm.symm ⟨rules', hrules'⟩
      rw [hprocess hrules] at h
      cases h

/-! ## The standard table -/

theorem RuleTable.ownColumn_expand {t : Template} (ht : t ∈ standard.templates) (column : String) :
    (Rule.expand t column).OwnColumn := by
  have hcolumn {c : String} (hc : c ∈ (Expr.column column).columns) : c = column :=
    List.mem_singleton.1 hc
  intro red hred
  rcases List.mem_cons.1 ht with rfl | ht
  · obtain rfl := Except.ok.inj ((redaction_lastThree rfl column).symm.trans hred)
    exact ⟨rfl, fun c hc => hcolumn hc⟩
  · rcases redaction_tail ht column with h | ⟨p, put, h, -⟩
    · obtain rfl := Except.ok.inj (h.symm.trans hred)
      exact ⟨rfl, fun c hc => absurd hc List.not_mem_nil⟩
    · obtain rfl := Except.ok.inj (h.symm.trans hred)
      exact ⟨rfl, fun c hc => hcolumn hc⟩

theorem RuleSet.ownColumn_of_compile {columns : List String} {rules : RuleSet}
    (h : compile .standard columns = .ok rules) {rule : Rule} (hm : rule ∈ rules.rules) :
    rule.OwnColumn := by
  obtain ⟨c, -, t, ht, rfl⟩ := (mem_of_compile h).1 hm
  exact RuleTable.ownColumn_expand ht c

/-- A record with a security code in both columns. -/
def codeRecord : Record := (Record.empty.put "c" (.string "123")).put "d" (.string "123")

theorem processRecords_of_columns_swapped : ∃ rules o o',
    ["c", "d"].Perm ["d", "c"] ∧ RuleSet.compile .standard ["c", "d"] = .ok rules ∧
    (∀ rule ∈ rules.rules, rule.OwnColumn) ∧
    processRecords .epoch .standard (some ["c", "d"]) [codeRecord] = .ok o ∧
    processRecords .epoch .standard (some ["d", "c"]) [codeRecord] = .ok o' ∧
    o.SameRecords o' ∧ o.quarantined.map Quarantined.record = [codeRecord] := by
  have hsome : (RuleSet.compile .standard ["c", "d"]).toOption.isSome = true := by decide +kernel
  obtain ⟨rules, hrules⟩ := Option.isSome_iff_exists.1 hsome
  have hrules := Workload.eq_ok_of_toOption hrules
  have ho : processRecords .epoch .standard (some ["c", "d"]) [codeRecord] =
      .ok (.after rules .epoch [] "" [codeRecord]) :=
    processRecords_ok_iff.2 ⟨rules, hrules, rfl⟩
  have hsame := processRecords_of_columns_perm (.swap "d" "c" [])
    (fun _ h _ hm => RuleSet.ownColumn_of_compile h hm) .epoch .epoch [codeRecord]
  rw [ho] at hsame
  obtain ⟨o', ho', hsame⟩ := hsame.exists_of_ok
  refine ⟨rules, _, o', .swap "d" "c" [], hrules, ?_, ho, ho', hsame, ?_⟩
  · exact fun _ hm => RuleSet.ownColumn_of_compile hrules hm
  · have hm := (RuleSet.mem_of_compile hrules).2 ⟨"c", List.mem_cons_self,
      RuleTable.standard.templates[3], List.getElem_mem _, rfl⟩
    have hout : rules.accepts codeRecord = false :=
      RuleSet.accepts_eq_false hm (by decide +kernel)
    rw [BatchOutcome.quarantined_after, quarantined_routeAll, List.filter_cons, hout]
    rfl

end Quarantine
