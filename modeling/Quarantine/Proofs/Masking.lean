import Quarantine.Proofs.Pipeline.ColumnOrder
import Quarantine.Proofs.Pipeline.Passthrough

/-!
# Columns that are masked

Three rules of the standard table put a constant into their column, whatever it held.  The rules of
the column that come after such a rule find the constant and leave it, and what came before it was
seen by rules of that column only.  So two records that differ in the column alone come to the same.

    r and r' differ only in c    →  so do redactWith r rules and redactWith r' rules
    a rule that masks c is in p  →  p.redact r = p.redact r', with the constant in c
-/

namespace Quarantine

open Quarantine.Json

/-! ## Records that differ in one column -/

/-- That two records have the same columns in the same order, and the same values in all of them
but perhaps one. -/
structure Record.DifferOnlyIn (c : String) (r r' : Record) : Prop where
  columns_eq : r.columns = r'.columns
  get?_eq : ∀ d, d ≠ c → r.get? d = r'.get? d

section

variable {rule : Rule} {rules : List Rule} {r r' s s' : Record} {c d target : String} {v v' : Value}

namespace Record.DifferOnlyIn

/-- Records that agree in the one column as well are the same. -/
theorem eq_of_get? (h : DifferOnlyIn c r r') (hc : r.get? c = r'.get? c) : r = r' := by
  apply Record.eq_of_get? h.columns_eq
  intro d
  by_cases hd : d = c
  · rw [hd, hc]
  · exact h.get?_eq d hd

theorem of_put (r : Record) (c : String) (v v' : Value) :
    DifferOnlyIn c (r.put c v) (r.put c v') := by
  constructor
  · rw [columns_put, columns_put]
  · intro d hd
    rw [get?_put, get?_put, if_neg hd, if_neg hd]

theorem put (h : DifferOnlyIn c r r') (hmem : d ∈ r.columns) (hv : d ≠ c → v = v') :
    DifferOnlyIn c (r.put d v) (r'.put d v') := by
  constructor
  · have hmem' : d ∈ r'.columns := h.columns_eq ▸ hmem
    rw [columns_put_of_mem hmem, columns_put_of_mem hmem', h.columns_eq]
  · intro a ha
    rw [get?_put, get?_put]
    by_cases had : a = d
    · rw [if_pos had, if_pos had, hv (had ▸ ha)]
    · rw [if_neg had, if_neg had, h.get?_eq a ha]

end Record.DifferOnlyIn

/-- One redaction keeps two records such that they differ in one column at the most. -/
theorem Rule.OwnColumn.differOnlyIn (hown : rule.OwnColumn) (h : r.DifferOnlyIn c r')
    (hr : rule.redact r = .ok (target, v)) {target' : String}
    (hr' : rule.redact r' = .ok (target', v')) :
    (r.put target v).DifferOnlyIn c (r'.put target' v') := by
  obtain ⟨red, hred, rfl, hmem, -⟩ := redact_ok_iff.1 hr
  obtain ⟨red', hred', rfl, -⟩ := redact_ok_iff.1 hr'
  obtain rfl := Except.ok.inj (hred.symm.trans hred')
  apply h.put hmem
  intro hne
  -- the rule is of another column, and sees the same in both records
  have hcolumn : rule.column ≠ c := (hown red hred).1 ▸ hne
  rw [hown.redact_congr (h.get?_eq _ hcolumn), hr'] at hr
  exact (Prod.mk.inj (Except.ok.inj hr)).2.symm

/-- So do redactions in a row. -/
theorem redactWith_differOnlyIn (hrules : ∀ rule ∈ rules, rule.OwnColumn)
    (h : r.DifferOnlyIn c r') (hs : redactWith r rules = .ok s)
    (hs' : redactWith r' rules = .ok s') : s.DifferOnlyIn c s' := by
  induction rules generalizing r r' with
  | nil =>
    obtain rfl := Except.ok.inj hs
    obtain rfl := Except.ok.inj hs'
    exact h
  | cons rule rules ih =>
    obtain ⟨target, v, hredact, hrest⟩ := redactWith_cons_ok_iff.1 hs
    obtain ⟨target', v', hredact', hrest'⟩ := redactWith_cons_ok_iff.1 hs'
    have hown := hrules rule List.mem_cons_self
    apply ih _ (hown.differOnlyIn h hredact hredact') hrest hrest'
    intro rule hm
    exact hrules rule (List.mem_cons_of_mem _ hm)

end

/-! ## Rules that mask their column -/

namespace RuleTable

/-- The templates of the standard table that put a constant. -/
def maskingNames : List String :=
  [placeholder ++ " may contain ssn", placeholder ++ " may contain security code",
    placeholder ++ " may contain ipv4"]

theorem action_of_masking {t : Template} (ht : t ∈ standard.templates)
    (hname : t.name ∈ maskingNames) :
    t ∈ standard.templates.tail ∧ t.action = becomes redactedText := by
  have hnames : standard.templates.map (fun t => decide (t.name ∈ maskingNames)) =
      [false, true, false, true, false, true] := by decide +kernel
  simp only [standard, List.map_cons, List.cons.injEq, decide_eq_true_eq,
    decide_eq_false_iff_not] at hnames
  obtain ⟨hcard, -, hdate, -, hmail, -⟩ := hnames
  simp only [standard, List.mem_cons, List.not_mem_nil, or_false] at ht
  rcases ht with rfl | rfl | rfl | rfl | rfl | rfl
  · exact absurd hname hcard
  · exact ⟨by simp [standard], rfl⟩
  · exact absurd hname hdate
  · exact ⟨by simp [standard], rfl⟩
  · exact absurd hname hmail
  · exact ⟨by simp [standard], rfl⟩

end RuleTable

/-- That a rule of the standard table does not take a constant in a column for a number of a card:
it is the rule of another column, or another rule. -/
def Rule.SparesMasked (c : String) (rule : Rule) : Prop :=
  ∃ t ∈ RuleTable.standard.templates, ∃ d, Rule.expand t d = rule ∧
    (d = c → t ∈ RuleTable.standard.templates.tail)

section

variable {rule : Rule} {rules : List Rule} {r r' : Record} {c target : String} {v : Value}

theorem Rule.SparesMasked.get?_put (h : rule.SparesMasked c)
    (hr : r.get? c = some RuleTable.redactedValue) (hredact : rule.redact r = .ok (target, v)) :
    (r.put target v).get? c = some RuleTable.redactedValue := by
  obtain ⟨t, ht, d, rfl, htail⟩ := h
  obtain ⟨red, hred, rfl, -, hv⟩ := redact_ok_iff.1 hredact
  rw [Record.get?_put]
  by_cases hd : d = c
  · subst hd
    obtain ⟨e, hred', he⟩ := RuleTable.eval_standard (htail rfl) hr
    obtain rfl := Except.ok.inj (hred.symm.trans hred')
    rw [if_pos rfl, Except.ok.inj (hv.symm.trans he)]
  · obtain ⟨e, hred'⟩ := RuleTable.target_standard ht d
    obtain rfl := Except.ok.inj (hred.symm.trans hred')
    rw [if_neg (Ne.symm hd), hr]

/-- Such rules leave the constant where it is. -/
theorem get?_redactWith_masked (hrules : ∀ rule ∈ rules, rule.SparesMasked c)
    (hr : r.get? c = some RuleTable.redactedValue) (h : redactWith r rules = .ok r') :
    r'.get? c = some RuleTable.redactedValue := by
  induction rules generalizing r with
  | nil =>
    obtain rfl := Except.ok.inj h
    exact hr
  | cons rule rules ih =>
    obtain ⟨target, v, hredact, hrest⟩ := redactWith_cons_ok_iff.1 h
    have hput := (hrules rule List.mem_cons_self).get?_put hr hredact
    exact ih (fun rule hm => hrules rule (List.mem_cons_of_mem _ hm)) hput hrest

end

/-! ## Plans -/

/-- The rule for numbers of cards comes first among the selected rules of a column. -/
theorem RuleTable.exists_selected_eq {failed : FailedRules} {c : String} {t : Template}
    (ht : t ∈ standard.templates.tail) (hm : failed.contains (Rule.expand t c).name = true) :
    ∃ pre post, standard.selected failed c = pre ++ Rule.expand t c :: post ∧
      ∀ later ∈ post, ∃ t' ∈ standard.templates.tail, Rule.expand t' c = later := by
  have hothers : Rule.expand t c ∈ ((standard.templates.tail.map fun t => Rule.expand t c).filter
      fun rule => failed.contains rule.name) :=
    List.mem_filter.2 ⟨List.mem_map.2 ⟨t, ht, rfl⟩, hm⟩
  obtain ⟨pre, post, hsplit⟩ := List.append_of_mem hothers
  refine ⟨((standard.templates.take 1).map fun t => Rule.expand t c).filter
    (fun rule => failed.contains rule.name) ++ pre, post, ?_, ?_⟩
  · rw [List.append_assoc, ← hsplit, ← List.filter_append, ← List.map_append]
    rfl
  · intro later hlater
    have hmem := hsplit ▸ List.mem_append_right pre (List.mem_cons_of_mem _ hlater)
    exact List.mem_map.1 (List.mem_filter.1 hmem).1

/-- A list can be cut at the last place of an item. -/
theorem exists_last_of_mem {α : Type} {x : α} {xs : List α} (h : x ∈ xs) :
    ∃ front back, xs = front ++ x :: back ∧ x ∉ back := by
  obtain ⟨back, front, hreverse, hback⟩ := List.eq_append_cons_of_mem (List.mem_reverse.2 h)
  refine ⟨front.reverse, back.reverse, ?_, mt List.mem_reverse.1 hback⟩
  rw [← List.reverse_reverse xs, hreverse]
  simp

section

variable {columns : List String} {rules : RuleSet} {rule : Rule}

/-- Nothing that comes after a rule that masks its column does more to it. -/
theorem Plan.exists_after_mask (h : RuleSet.compile .standard columns = .ok rules)
    (failed : FailedRules) (hm : rule ∈ (Plan.select failed rules).rules)
    (hmask : rule.template ∈ RuleTable.maskingNames) :
    rule.redaction = .ok ⟨.literal RuleTable.redactedValue, rule.column⟩ ∧
    ∃ before after, (Plan.select failed rules).rules = before ++ rule :: after ∧
      ∀ later ∈ after, later.SparesMasked rule.column := by
  obtain ⟨hrule, hselected⟩ := List.mem_filter.1 hm
  obtain ⟨c, hc, t, ht, rfl⟩ := (RuleSet.mem_of_compile h).1 hrule
  obtain ⟨htail, haction⟩ := RuleTable.action_of_masking ht hmask
  obtain ⟨pre, post, hblock, hpost⟩ := RuleTable.exists_selected_eq htail hselected
  -- what follows the last place of the column is of other columns
  obtain ⟨front, back, rfl, hback⟩ := exists_last_of_mem hc
  have hrules : (Plan.select failed rules).rules =
      (front.flatMap (RuleTable.standard.selected failed) ++ pre) ++
        Rule.expand t c :: (post ++ back.flatMap (RuleTable.standard.selected failed)) := by
    rw [Plan.rules_select h, List.flatMap_append, List.flatMap_cons, hblock]
    simp only [List.append_assoc, List.cons_append]
  refine ⟨RuleTable.redaction_constant haction c, _, _, hrules, ?_⟩
  intro later hlater
  rcases List.mem_append.1 hlater with hlater | hlater
  · obtain ⟨t', ht', rfl⟩ := hpost later hlater
    exact ⟨t', List.mem_of_mem_tail ht', c, rfl, fun _ => ht'⟩
  · obtain ⟨d, hd, hlater⟩ := List.mem_flatMap.1 hlater
    obtain ⟨t', ht', rfl⟩ := List.mem_map.1 (List.mem_filter.1 hlater).1
    refine ⟨t', ht', d, rfl, ?_⟩
    rintro rfl
    exact absurd hd hback

/-- A plan with a rule that masks its column leaves the constant in it. -/
theorem Plan.exists_redact_masked (h : RuleSet.compile .standard columns = .ok rules)
    (failed : FailedRules) (hm : rule ∈ (Plan.select failed rules).rules)
    (hmask : rule.template ∈ RuleTable.maskingNames) {r : Record}
    (hr : ∀ d ∈ columns, d ∈ r.columns) :
    ∃ s, (Plan.select failed rules).redact r = .ok s ∧
      s.get? rule.column = some RuleTable.redactedValue := by
  have hfrom : ∀ later ∈ (Plan.select failed rules).rules, later ∈ rules.rules :=
    fun later hlater => (List.mem_filter.1 hlater).1
  have hsuccess : ∃ s, redactWith r (Plan.select failed rules).rules = .ok s := by
    apply (exists_redactWith_iff fun later hlater =>
      RuleSet.restsOnColumn_of_compile h (hfrom later hlater)).2
    intro later hlater
    obtain ⟨d, hd, t, -, rfl⟩ := (RuleSet.mem_of_compile h).1 (hfrom later hlater)
    exact hr d hd
  obtain ⟨s, hs⟩ := hsuccess
  refine ⟨s, hs, ?_⟩
  obtain ⟨hred, before, after, hrules, hspares⟩ := exists_after_mask h failed hm hmask
  have hs' := congrArg Except.toOption hs
  rw [hrules, toOption_redactWith_append] at hs'
  obtain ⟨m, hbefore, hrest⟩ := Option.bind_eq_some_iff.1 hs'
  have hrest := Workload.eq_ok_of_toOption hrest
  obtain ⟨target, v, hredact, hafter⟩ := redactWith_cons_ok_iff.1 hrest
  obtain ⟨red, hred', rfl, -, hv⟩ := Rule.redact_ok_iff.1 hredact
  obtain rfl := Except.ok.inj (hred.symm.trans hred')
  apply get?_redactWith_masked hspares _ hafter
  rw [Expr.eval] at hv
  rw [Record.get?_put, if_pos rfl, Except.ok.inj hv]

/-- With the standard table a masked column tells nothing: records that differ in it alone are
redacted to one record, which has the constant there. -/
theorem Plan.redact_eq_of_masked (h : RuleSet.compile .standard columns = .ok rules)
    (failed : FailedRules) (hm : rule ∈ (Plan.select failed rules).rules)
    (hmask : rule.template ∈ RuleTable.maskingNames) {r r' : Record}
    (hdiffer : r.DifferOnlyIn rule.column r') (hr : ∀ d ∈ columns, d ∈ r.columns) :
    ∃ s, (Plan.select failed rules).redact r = .ok s ∧
      (Plan.select failed rules).redact r' = .ok s ∧
      s.get? rule.column = some (.string "[REDACTED]") := by
  have hr' : ∀ d ∈ columns, d ∈ r'.columns := hdiffer.columns_eq ▸ hr
  obtain ⟨s, hs, hmasked⟩ := exists_redact_masked h failed hm hmask hr
  obtain ⟨s', hs', hmasked'⟩ := exists_redact_masked h failed hm hmask hr'
  have hown : ∀ later ∈ (Plan.select failed rules).rules, later.OwnColumn :=
    fun later hlater => RuleSet.ownColumn_of_compile h (List.mem_filter.1 hlater).1
  have hsame : s.DifferOnlyIn rule.column s' := redactWith_differOnlyIn hown hdiffer hs hs'
  obtain rfl := hsame.eq_of_get? (hmasked.trans hmasked'.symm)
  exact ⟨s, hs, hs', hmasked⟩

end

/-- A history in which the number of a card, a date and a social security number were found. -/
def maskedHistory : FailedRules :=
  ⟨.ofList ["c may contain creditcard", "c may contain ssn", "c may contain expiry date"]⟩

/-- A number of a card and a nested value come to the same. -/
theorem Plan.redact_eq_of_masked_card :
    let r := (Record.empty.put "a" .null).put "c" (.string "4111111111111111")
    let r' := (Record.empty.put "a" .null).put "c" (.array [.null, .string "09/27"])
    ∃ rules rule s, RuleSet.compile .standard ["c"] = .ok rules ∧
      rule ∈ (select maskedHistory rules).rules ∧ rule.template ∈ RuleTable.maskingNames ∧
      r.DifferOnlyIn rule.column r' ∧ (∀ d ∈ ["c"], d ∈ r.columns) ∧
      (select maskedHistory rules).redact r = .ok s ∧
      (select maskedHistory rules).redact r' = .ok s ∧
      s.get? rule.column = some (.string "[REDACTED]") := by
  have hsome : (RuleSet.compile .standard ["c"]).toOption.isSome = true := by decide +kernel
  obtain ⟨rules, hrules⟩ := Option.isSome_iff_exists.1 hsome
  have hrules := Workload.eq_ok_of_toOption hrules
  have hm : Rule.expand RuleTable.standard.templates[1] "c" ∈ (select maskedHistory rules).rules :=
    List.mem_filter.2 ⟨(RuleSet.mem_of_compile hrules).2
      ⟨"c", List.mem_cons_self, _, List.getElem_mem _, rfl⟩, by decide +kernel⟩
  have hmask : RuleTable.standard.templates[1].name ∈ RuleTable.maskingNames := by decide +kernel
  have hdiffer : ((Record.empty.put "a" .null).put "c" (.string "4111111111111111")).DifferOnlyIn
      "c" ((Record.empty.put "a" .null).put "c" (.array [.null, .string "09/27"])) :=
    .of_put ..
  have hcolumns : ∀ d ∈ ["c"],
      d ∈ ((Record.empty.put "a" .null).put "c" (.string "4111111111111111")).columns := by
    decide +kernel
  obtain ⟨s, hs, hs', hmasked⟩ :=
    redact_eq_of_masked hrules maskedHistory hm hmask hdiffer hcolumns
  exact ⟨rules, _, s, hrules, hm, hmask, hdiffer, hcolumns, hs, hs', hmasked⟩

end Quarantine
