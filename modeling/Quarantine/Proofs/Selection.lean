import Quarantine.Proofs.Ascending
import Quarantine.Proofs.Metrics.Totals
import Quarantine.Proofs.Rule.Compilation
import Quarantine.Selection

/-!
# What is selected

A rule has failed if some event says so, and then its row in the totals says so too.  How the events
are put, in which order and in how many parts, does not matter for either.

    n has failed       ↔ the row of n in the totals has failures
    n is selected      ↔ n has failed and the rules know n
    n is left aside    ↔ n has failed and the rules do not know n

The selected rules keep the order of the rules, and the names that are left aside ascend.
-/

namespace Quarantine

/-! ## Failed rules -/

namespace FailedRules

variable {events xs ys : List Event} {name : String}

theorem contains_ofEvents :
    (ofEvents events).contains name = true ↔
      ∃ e ∈ events, e.hasFailures = true ∧ e.rule = name := by
  unfold contains ofEvents
  rw [Ascending.contains_ofList, List.mem_map]
  constructor
  · rintro ⟨e, he, rfl⟩
    obtain ⟨hm, hf⟩ := List.mem_filter.1 he
    exact ⟨e, hm, hf, rfl⟩
  · rintro ⟨e, hm, hf, rfl⟩
    exact ⟨e, List.mem_filter.2 ⟨hm, hf⟩, rfl⟩

theorem contains_ofEvents_append :
    (ofEvents (xs ++ ys)).contains name = true ↔
      (ofEvents xs).contains name = true ∨ (ofEvents ys).contains name = true := by
  simp only [contains_ofEvents, List.mem_append, or_and_right, exists_or]

/-- A rule has failed if its counts of failures sum up to one at least. -/
theorem contains_ofEvents_iff_sum : (ofEvents events).contains name = true ↔
    1 ≤ (Totals.sum name (events.map Event.row)).failed := by
  rw [contains_ofEvents, Totals.one_le_failed_sum]
  constructor
  · rintro ⟨e, he, hf, hname⟩
    exact ⟨e.row, List.mem_map_of_mem he, hname, of_decide_eq_true hf⟩
  · rintro ⟨t, ht, hname, hf⟩
    obtain ⟨e, he, rfl⟩ := List.mem_map.1 ht
    exact ⟨e, he, decide_eq_true hf, hname⟩

/-- Of a rule that has failed the row in the totals has failures. -/
theorem contains_ofEvents_iff_totals : (ofEvents events).contains name = true ↔
    ∃ t ∈ totals events, t.rule = name ∧ 1 ≤ t.failed := by
  rw [contains_ofEvents_iff_sum, ← sum_totals, Totals.one_le_failed_sum]

/-- Failed rules are told by the sums of the events. -/
theorem ofEvents_congr (h : ∀ rule, Totals.sum rule (xs.map Event.row) =
    Totals.sum rule (ys.map Event.row)) : ofEvents xs = ofEvents ys := by
  refine congrArg mk (Ascending.eq_of_contains fun name => ?_)
  have hsum : (ofEvents xs).contains name = true ↔ (ofEvents ys).contains name = true := by
    rw [contains_ofEvents_iff_sum, contains_ofEvents_iff_sum, h]
  exact hsum

end FailedRules

/-! ## Events in other parts -/

/-- That events have the same counts for each rule, in another order or in other parts: an event is
two of its rule that have its counts together. -/
inductive Regrouped : List Event → List Event → Prop
  | reordered {xs ys : List Event} (h : xs.Perm ys) : Regrouped xs ys
  | split {e e₁ e₂ : Event} (before after : List Event) (rule : e₂.rule = e₁.rule)
    (counts : e.row = e₁.row.plus e₂.row) :
    Regrouped (before ++ e :: after) (before ++ e₁ :: e₂ :: after)
  | symm {xs ys : List Event} (h : Regrouped xs ys) : Regrouped ys xs
  | trans {xs ys zs : List Event} (h : Regrouped xs ys) (h' : Regrouped ys zs) : Regrouped xs zs

namespace Regrouped

variable {xs ys : List Event}

theorem sum_eq (h : Regrouped xs ys) (rule : String) :
    Totals.sum rule (xs.map Event.row) = Totals.sum rule (ys.map Event.row) := by
  induction h with
  | reordered h => exact Totals.sum_perm (h.map Event.row)
  | @split e e₁ e₂ before after hrule counts =>
    have hparts : Totals.sum rule [e.row] = Totals.sum rule [e₁.row, e₂.row] := by
      rw [counts]
      exact Totals.sum_plus hrule
    simp only [List.map_append, List.map_cons]
    rw [Totals.sum_append, Totals.sum_append, ← List.singleton_append, Totals.sum_append, hparts,
      ← Totals.sum_append]
    rfl
  | symm _ ih => exact ih.symm
  | trans _ _ ih ih' => exact ih.trans ih'

theorem mem_rules_iff (h : Regrouped xs ys) (rule : String) :
    rule ∈ xs.map Event.rule ↔ rule ∈ ys.map Event.rule := by
  induction h with
  | reordered h => exact (h.map Event.rule).mem_iff
  | @split e e₁ e₂ before after hrule counts =>
    have he : e.rule = e₁.rule := congrArg Totals.rule counts
    simp only [List.map_append, List.map_cons, List.mem_append, List.mem_cons, he, hrule]
    rw [or_self_left]
  | symm _ ih => exact ih.symm
  | trans _ _ ih ih' => exact ih.trans ih'

theorem perm_totals (h : Regrouped xs ys) : (totals xs).Perm (totals ys) := by
  have hnodup (events : List Event) : (totals events).Nodup :=
    (List.pairwise_map.1 (nodup_totals events)).imp fun hne he => hne (congrArg Totals.rule he)
  refine (List.perm_ext_iff_of_nodup (hnodup xs) (hnodup ys)).2 fun t => ?_
  rw [mem_totals, mem_totals, h.mem_rules_iff, h.sum_eq]

end Regrouped

/-! ## Plans -/

namespace Plan

variable {failed : FailedRules} {rules : RuleSet} {name : String}

theorem names_select : (select failed rules).names = rules.names.filter failed.contains := by
  unfold names select RuleSet.names
  rw [List.filter_map]
  rfl

theorem mem_names_select : name ∈ (select failed rules).names ↔
    failed.contains name = true ∧ name ∈ rules.names := by
  rw [names_select, List.mem_filter, and_comm]

end Plan

/-- The rules of a set are found by their names, and no others are. -/
theorem RuleSet.get?_isNone_iff {rules : RuleSet} {name : String} :
    (rules.get? name).isNone = true ↔ name ∉ rules.names := by
  rw [Option.isNone_iff_eq_none, get?, List.find?_eq_none, names, List.mem_map]
  constructor
  · rintro h ⟨rule, hrule, rfl⟩
    exact h rule hrule (beq_self_eq_true _)
  · intro h rule hrule hname
    exact h ⟨rule, hrule, eq_of_beq hname⟩

theorem FailedRules.mem_unknown {failed : FailedRules} {rules : RuleSet} {name : String} :
    name ∈ failed.unknown rules ↔ failed.contains name = true ∧ name ∉ rules.names := by
  rw [unknown, List.mem_filter, RuleSet.get?_isNone_iff, contains, Ascending.contains_iff]

/-- That failed rules are split in two: those that are selected from rules in an order, and those
that are left aside. -/
structure FailedRules.Split (failed : FailedRules) (ordered selected aside : List String) :
    Prop where
  nodup : selected.Nodup
  sublist : selected.Sublist ordered
  ascending : aside.Pairwise (· < ·)
  disjoint : ∀ name ∈ selected, name ∉ aside
  complete : ∀ name, failed.contains name = true ↔ name ∈ selected ∨ name ∈ aside

theorem Plan.split_select (failed : FailedRules) (rules : RuleSet) :
    failed.Split rules.names (select failed rules).names (failed.unknown rules) := by
  have hsublist : (select failed rules).names.Sublist rules.names := by
    rw [names_select]
    exact List.filter_sublist
  constructor
  case nodup => exact rules.distinct.sublist hsublist
  case sublist => exact hsublist
  case ascending => exact failed.names.ascends.sublist List.filter_sublist
  case disjoint =>
    intro name hselected haside
    exact (FailedRules.mem_unknown.1 haside).2 (mem_names_select.1 hselected).2
  case complete =>
    intro name
    rw [mem_names_select, FailedRules.mem_unknown, ← and_or_left, and_iff_left (em _)]

/-- Failed rules, totals and plans agree.  For any history, a rule has failed if its row in the
totals has failures, and each rule has one row; neither changes when the events are put in another
order, split or summed, and events more take no name away.  For the rules that a table gives for
columns, the failed rules are split into those that are selected, each once and in the order of the
rules, and those that the rules do not know, which ascend. -/
theorem failures_in_totals_and_plans :
    (∀ events, ((totals events).map Totals.rule).Nodup ∧
      ∀ name, (FailedRules.ofEvents events).contains name = true ↔
        ∃ t ∈ totals events, t.rule = name ∧ 1 ≤ t.failed) ∧
    (∀ xs ys, Regrouped xs ys →
      FailedRules.ofEvents xs = FailedRules.ofEvents ys ∧ (totals xs).Perm (totals ys)) ∧
    (∀ xs ys name, (FailedRules.ofEvents xs).contains name = true →
      (FailedRules.ofEvents (xs ++ ys)).contains name = true) ∧
    ∀ table columns rules, RuleSet.compile table columns = .ok rules → ∀ failed : FailedRules,
      failed.Split ((RuleSet.expansions table columns).map (·.2.name))
        (Plan.select failed rules).names (failed.unknown rules) := by
  refine ⟨fun events => ⟨nodup_totals events, fun name => ?_⟩, fun xs ys h => ?_,
    fun xs ys name h => ?_, fun table columns rules h failed => ?_⟩
  · exact FailedRules.contains_ofEvents_iff_totals
  · exact ⟨FailedRules.ofEvents_congr h.sum_eq, h.perm_totals⟩
  · exact FailedRules.contains_ofEvents_append.2 (.inl h)
  · have hnames : rules.names = (RuleSet.expansions table columns).map (·.2.name) := by
      rw [RuleSet.names, RuleSet.rules_of_compile h, List.map_map]
      rfl
    rw [← hnames]
    exact Plan.split_select failed rules

/-- Events of one rule as one event and as two.  Another rule that has failed is not known. -/
theorem failures_in_totals_and_plans_sample :
    let once : List Event := [⟨.epoch, "clean", "x", 4, 3⟩, ⟨.epoch, "clean", "gone", 1, 1⟩]
    let twice : List Event := [⟨.epoch, "clean", "gone", 1, 1⟩, ⟨.epoch, "clean", "x", 1, 3⟩,
      ⟨.epoch, "clean", "x", 3, 0⟩]
    Regrouped once twice ∧ FailedRules.ofEvents once = FailedRules.ofEvents twice ∧
    (totals once).Perm (totals twice) ∧
    (FailedRules.ofEvents twice).contains "x" = true ∧
    (FailedRules.ofEvents (twice ++ once)).contains "x" = true ∧
    ∃ rules, RuleSet.compile RuleSet.nameTable ["y"] = .ok rules ∧
      (FailedRules.ofEvents once).Split ["y", "x"] (Plan.select (.ofEvents once) rules).names
        ((FailedRules.ofEvents once).unknown rules) ∧
      (Plan.select (.ofEvents once) rules).names = ["x"] := by
  intro once twice
  have hsplit : Regrouped once [⟨.epoch, "clean", "x", 1, 3⟩, ⟨.epoch, "clean", "x", 3, 0⟩,
      ⟨.epoch, "clean", "gone", 1, 1⟩] := .split [] [⟨.epoch, "clean", "gone", 1, 1⟩] rfl rfl
  have hregrouped : Regrouped once twice := hsplit.trans (.reordered (by decide))
  obtain ⟨-, hsame, hmore, hplans⟩ := failures_in_totals_and_plans
  obtain ⟨hfailed, htotals⟩ := hsame once twice hregrouped
  have hx : (FailedRules.ofEvents twice).contains "x" = true := by decide
  refine ⟨hregrouped, hfailed, htotals, hx, hmore twice once "x" hx, ?_⟩
  have hnames : (RuleSet.compile RuleSet.nameTable ["y"]).toOption.map RuleSet.names =
      some ["y", "x"] := by decide +kernel
  cases hrules : RuleSet.compile RuleSet.nameTable ["y"] with
  | error e =>
    rw [hrules] at hnames
    cases hnames
  | ok rules =>
    rw [hrules] at hnames
    refine ⟨rules, rfl, hplans _ _ _ hrules _, ?_⟩
    rw [Plan.names_select, Option.some.inj hnames]
    decide

end Quarantine
