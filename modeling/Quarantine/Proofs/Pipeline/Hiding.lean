import Quarantine.Proofs.Pipeline.Coverage
import Quarantine.Proofs.Rule.RuleSet
import Quarantine.Proofs.Rule.Standard

/-!
# Values that are gone after the redaction

Three actions of the standard table put a constant into the column.  Whatever else is selected,
the constant is still there when all actions of the plan are done, and it passes every
constraint on the column.

    rule fails on r, its action puts the constant → the processed record has the constant

The same does not hold of the actions that replace only what a pattern of their own matches.
-/

namespace Quarantine

open Quarantine.Json

/-! ## Rules one after the other -/

/-- That a redaction by the rule leaves a value of a column where it is there. -/
def Rule.Keeps (rule : Rule) (column : String) (v : Value) : Prop :=
  ∀ r, r.get? column = some v → ∀ target w, rule.redact r = .ok (target, w) →
    (r.put target w).get? column = some v

section

variable {column : String} {v : Value} {r r' : Record}

theorem get?_redactWith_of_keeps {rules : List Rule} (hkeeps : ∀ rule ∈ rules, rule.Keeps column v)
    (hr : r.get? column = some v) (h : redactWith r rules = .ok r') : r'.get? column = some v := by
  induction rules generalizing r with
  | nil => exact Except.ok.inj h ▸ hr
  | cons rule rest ih =>
    unfold redactWith at h
    split at h
    · next target w hw =>
      exact ih (fun rule hm => hkeeps rule (List.mem_cons_of_mem _ hm))
        (hkeeps rule List.mem_cons_self r hr target w hw) h
    · cases h

/-- A value that a rule puts is there in the end if the rules after it keep it. -/
theorem get?_redactWith_of_put {before after : List Rule} {rule : Rule}
    (hput : ∀ r target w, rule.redact r = .ok (target, w) → target = column ∧ w = v)
    (hkeeps : ∀ rule ∈ after, rule.Keeps column v)
    (h : redactWith r (before ++ rule :: after) = .ok r') : r'.get? column = some v := by
  induction before generalizing r with
  | nil =>
    rw [List.nil_append, redactWith] at h
    split at h
    · next target w hw =>
      obtain ⟨rfl, rfl⟩ := hput r target w hw
      exact get?_redactWith_of_keeps hkeeps (by rw [Record.get?_put, if_pos rfl]) h
    · cases h
  | cons first rest ih =>
    rw [List.cons_append, redactWith] at h
    split at h
    · exact ih h
    · cases h

/-- What a rule with this action does to a record. -/
theorem Rule.redact_of_redaction {rule : Rule} {e : Expr} {target : String} {w : Value}
    (hrule : rule.redaction = .ok ⟨e, column⟩) (h : rule.redact r = .ok (target, w)) :
    target = column ∧ e.eval r = .ok w := by
  unfold redact at h
  rw [hrule] at h
  dsimp only [Redaction.evaluate] at h
  split at h
  · cases h
  · next v hv =>
    obtain ⟨rfl, rfl⟩ := Prod.mk.inj (Except.ok.inj h)
    split at hv
    · exact ⟨rfl, hv⟩
    · cases hv

end

/-! ## The rules of the standard table -/

namespace RuleTable

variable {t : Template} {c : String}

/-- A rule of another column keeps every value. -/
theorem keeps_of_ne (ht : t ∈ standard.templates) {d : String} (hd : d ≠ c) (v : Value) :
    (Rule.expand t d).Keeps c v := by
  intro r hr target w h
  obtain ⟨e, he⟩ := target_standard ht d
  obtain ⟨rfl, -⟩ := Rule.redact_of_redaction he h
  rw [Record.get?_put, if_neg hd.symm, hr]

/-- A later rule of the same column keeps the constant. -/
theorem keeps_of_tail (ht : t ∈ standard.templates.tail) : (Rule.expand t c).Keeps c redactedValue := by
  intro r hr target w h
  obtain ⟨e, he, heval⟩ := eval_standard ht hr
  obtain ⟨rfl, hw⟩ := Rule.redact_of_redaction he h
  obtain rfl := Except.ok.inj (heval.symm.trans hw)
  rw [Record.get?_put, if_pos rfl]

/-- The rules of a column stand together, in the order of their templates. -/
theorem exists_block {columns : List String} {rules : RuleSet}
    (h : RuleSet.compile standard columns = .ok rules) (hc : c ∈ columns) :
    ∃ before after, rules.rules = before ++ (standard.templates.map (Rule.expand · c) ++ after) ∧
      ∀ rule ∈ after, ∃ t ∈ standard.templates, ∃ d, d ≠ c ∧ rule = Rule.expand t d := by
  obtain ⟨xs, ys, rfl⟩ := List.append_of_mem hc
  have hrules : rules.rules =
      (xs ++ c :: ys).flatMap fun c => standard.templates.map (Rule.expand · c) := by
    rw [RuleSet.rules_of_compile h, RuleSet.expansions, List.map_flatMap]
    simp only [List.map_map, Function.comp_def]
  rw [List.flatMap_append, List.flatMap_cons] at hrules
  refine ⟨_, _, hrules, fun rule hrule => ?_⟩
  obtain ⟨d, hd, hrule⟩ := List.mem_flatMap.1 hrule
  obtain ⟨t, ht, rfl⟩ := List.mem_map.1 hrule
  refine ⟨t, ht, d, ?_, rfl⟩
  rintro rfl
  -- the same rule would stand in its column a second time
  have hdistinct := rules.distinct
  rw [hrules, List.map_append, List.map_append] at hdistinct
  have hdisjoint := (List.nodup_append.1 (List.nodup_append.1 hdistinct).2.1).2.2
  exact hdisjoint _ (List.mem_map_of_mem (List.mem_map_of_mem ht)) _
    (List.mem_map_of_mem (List.mem_flatMap.2 ⟨d, hd, hrule⟩)) rfl

/-- Only the first action of the table needs more than the constant. -/
theorem mem_tail_of_constant (ht : t ∈ standard.templates)
    (hconstant : t.action = becomes redactedText) : t ∈ standard.templates.tail := by
  rcases List.mem_cons.1 ht with rfl | ht
  · exact absurd hconstant (by decide +kernel)
  · exact ht

/-- The rules after one that puts the constant keep it. -/
theorem exists_keepers {columns : List String} {rules : RuleSet}
    (h : RuleSet.compile standard columns = .ok rules) (hc : c ∈ columns)
    (ht : t ∈ standard.templates.tail) :
    ∃ before after, rules.rules = before ++ Rule.expand t c :: after ∧
      ∀ rule ∈ after, rule.Keeps c redactedValue := by
  obtain ⟨before, after, hrules, hafter⟩ := exists_block h hc
  obtain ⟨xs, ys, hblock⟩ := List.append_of_mem ht
  obtain ⟨first, hall⟩ : ∃ first, standard.templates = first :: standard.templates.tail := ⟨_, rfl⟩
  refine ⟨before ++ Rule.expand first c :: xs.map (Rule.expand · c),
    ys.map (Rule.expand · c) ++ after, ?_, fun rule hrule => ?_⟩
  · rw [hrules, hall, hblock]
    simp only [List.map_cons, List.map_append, List.append_assoc, List.cons_append]
  · rcases List.mem_append.1 hrule with hrule | hrule
    · obtain ⟨u, hu, rfl⟩ := List.mem_map.1 hrule
      refine keeps_of_tail ?_
      rw [hblock]
      exact List.mem_append_right _ (List.mem_cons_of_mem _ hu)
    · obtain ⟨u, hu, d, hd, rfl⟩ := hafter rule hrule
      exact keeps_of_ne hu hd _

end RuleTable

/-! ## Batches -/

section

open RuleTable

variable {columns : List String} {rules : RuleSet} {t : Template} {c : String}

/-- A record that a plan with such a rule redacts has the constant in the column. -/
theorem Plan.get?_redact_of_selected (h : RuleSet.compile standard columns = .ok rules)
    (hc : c ∈ columns) (ht : t ∈ standard.templates)
    (hconstant : t.action = becomes redactedText) {failed : FailedRules}
    (hfailed : failed.contains (Rule.expand t c).name = true) {r r' : Record}
    (hredact : (select failed rules).redact r = .ok r') : r'.get? c = some redactedValue := by
  obtain ⟨before, after, hrules, hkeeps⟩ := exists_keepers h hc (mem_tail_of_constant ht hconstant)
  unfold redact select at hredact
  dsimp only at hredact
  rw [hrules, List.filter_append, List.filter_cons_of_pos (by exact hfailed)] at hredact
  refine get?_redactWith_of_put (fun r target w hw => ?_)
    (fun rule hrule => hkeeps rule (List.mem_filter.1 hrule).1) hredact
  obtain ⟨rfl, hv⟩ := Rule.redact_of_redaction (redaction_constant hconstant c) hw
  rw [Expr.eval] at hv
  exact ⟨rfl, (Except.ok.inj hv).symm⟩

/-- Whatever the history, a value on which such a rule failed is gone from the record as it is
written after the redaction, and no rule of the table finds anything in its column. -/
theorem hidden_in_same_batch (h : RuleSet.compile standard columns = .ok rules) (time : Instant)
    (history : List Event) (id : String) (records : List Record) (hc : c ∈ columns)
    (ht : t ∈ standard.templates) (hconstant : t.action = becomes redactedText) {x : Processed}
    (hx : x ∈ (BatchOutcome.after rules time history id records).processed)
    (happlied : x.isRedacted = true) (hfailed : (Rule.expand t c).name ∈ x.failedRules) :
    x.record.get? c = some redactedValue ∧
      ∀ rule ∈ rules.rules, rule.column = c → rule.check x.record = .ok true := by
  obtain ⟨hprocessed, hselected⟩ := BatchOutcome.covered_after rules time history id records
  obtain ⟨failed, hplan⟩ : ∃ failed,
      (BatchOutcome.after rules time history id records).plan = Plan.select failed rules := ⟨_, rfl⟩
  rw [hprocessed] at hx
  obtain ⟨q, hq, rfl⟩ := List.mem_map.1 hx
  rw [hplan] at happlied hfailed hselected ⊢
  have hget : ((Plan.select failed rules).process q).record.get? c = some redactedValue := by
    unfold Plan.process at happlied hfailed ⊢
    cases hredact : (Plan.select failed rules).redact q.record with
    | error e =>
      rw [hredact] at happlied
      cases happlied
    | ok r' =>
      rw [hredact] at hfailed
      exact Plan.get?_redact_of_selected h hc ht hconstant
        (Plan.mem_names_select.1 (hselected q hq _ hfailed)).1 hredact
  refine ⟨hget, fun rule hrule hcolumn => ?_⟩
  obtain ⟨d, -, u, hu, rfl⟩ := (RuleSet.mem_of_compile h).1 hrule
  obtain rfl : d = c := hcolumn
  exact check_standard hu hget

end

end Quarantine
