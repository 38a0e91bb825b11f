import Quarantine.Rule.RuleSet

/-!
# Compiled rules

A rule set has a rule for each column and each template of its table, and no others.

    rule ∈ rules  ↔  rule = expand t c  for a template t of the table and a column c
-/

namespace Quarantine

namespace RuleSet

variable {table : RuleTable} {columns columns' : List String} {rules rules' : RuleSet}

theorem rules_of_compile (h : compile table columns = .ok rules) :
    rules.rules = (expansions table columns).map Prod.snd := by
  unfold compile at h
  dsimp only at h
  split at h
  · cases h
  · rw [← Except.ok.inj h]

theorem mem_of_compile (h : compile table columns = .ok rules) {rule : Rule} :
    rule ∈ rules.rules ↔ ∃ c ∈ columns, ∃ t ∈ table.templates, Rule.expand t c = rule := by
  rw [rules_of_compile h, expansions, List.map_flatMap, List.mem_flatMap]
  simp only [List.map_map, List.mem_map, Function.comp_apply]

/-- A rule is in every rule set of its table that has its column. -/
theorem mem_of_column (h : compile table columns = .ok rules)
    (h' : compile table columns' = .ok rules') {rule : Rule} (hrule : rule ∈ rules.rules)
    (hcolumn : rule.column ∈ columns') : rule ∈ rules'.rules := by
  obtain ⟨c, -, t, ht, rfl⟩ := (mem_of_compile h).1 hrule
  exact (mem_of_compile h').2 ⟨c, hcolumn, t, ht, rfl⟩

end RuleSet

end Quarantine
