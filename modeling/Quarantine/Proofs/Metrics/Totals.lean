import Quarantine.Metrics.Totals
import Mathlib.Data.List.Induction

/-!
# What totals hold

The totals of events have a row for each rule, in the order in which the rules are first seen, and
the row has the sums of the counts of the rule.

    totals es = the rules of es, each once, with their sums in es

A sum is taken over any rows, so that totals can be compared with the rows that they were made of
in another way.
-/

namespace Quarantine

/-- The counts of an event, as a row. -/
def Event.row (e : Event) : Totals := ⟨e.rule, e.passed, e.failed⟩

/-- The rules of events, each once, in the order in which they are first seen. -/
def rulesSeen (events : List Event) : List String := (events.map Event.rule).eraseDups

namespace Totals

/-- The counts of two rows together, for the rule of the first. -/
def plus (s t : Totals) : Totals := ⟨s.rule, s.passed + t.passed, s.failed + t.failed⟩

/-- The sum of the rows of a rule. -/
def sum (rule : String) : List Totals → Totals
  | [] => ⟨rule, 0, 0⟩
  | t :: rest => if t.rule = rule then t.plus (sum rule rest) else sum rule rest

variable {rule : String} {rows : List Totals} {t : Totals} {e : Event}

/-! ## Sums -/

theorem plus_assoc (s t u : Totals) : (s.plus t).plus u = s.plus (t.plus u) := by
  simp only [plus, Nat.add_assoc]

theorem plus_comm {s t : Totals} (h : s.rule = t.rule) : s.plus t = t.plus s := by
  simp only [plus, h, Nat.add_comm]

theorem plus_zero (t : Totals) : t.plus ⟨rule, 0, 0⟩ = t := rfl

theorem zero_plus (h : t.rule = rule) : plus ⟨rule, 0, 0⟩ t = t := by
  obtain ⟨name, passed, failed⟩ := t
  obtain rfl : name = rule := h
  simp only [plus, Nat.zero_add]

@[simp] theorem rule_sum : (sum rule rows).rule = rule := by
  induction rows with
  | nil => rfl
  | cons t rest ih =>
    unfold sum
    split
    · next h => exact h
    · exact ih

theorem sum_cons_of_ne (h : t.rule ≠ rule) : sum rule (t :: rows) = sum rule rows := if_neg h

theorem sum_append (xs ys : List Totals) :
    sum rule (xs ++ ys) = (sum rule xs).plus (sum rule ys) := by
  induction xs with
  | nil => exact (zero_plus rule_sum).symm
  | cons t rest ih =>
    rw [List.cons_append, sum, sum, ih]
    split
    · exact (plus_assoc _ _ _).symm
    · rfl

theorem sum_append_comm (xs ys : List Totals) : sum rule (xs ++ ys) = sum rule (ys ++ xs) := by
  rw [sum_append, sum_append, plus_comm (rule_sum.trans rule_sum.symm)]

theorem sum_eq_of_forall_ne (h : ∀ t ∈ rows, t.rule ≠ rule) : sum rule rows = ⟨rule, 0, 0⟩ := by
  induction rows with
  | nil => rfl
  | cons t rest ih =>
    rw [sum_cons_of_ne (h t List.mem_cons_self), ih fun u hu => h u (List.mem_cons_of_mem _ hu)]

/-- In which order rows are summed does not matter. -/
theorem sum_perm {xs ys : List Totals} (h : xs.Perm ys) : sum rule xs = sum rule ys := by
  induction h with
  | nil => rfl
  | cons t _ ih => rw [sum, sum, ih]
  | swap t u rest =>
    calc sum rule ([u] ++ [t] ++ rest)
      _ = (sum rule ([u] ++ [t])).plus (sum rule rest) := sum_append _ _
      _ = (sum rule ([t] ++ [u])).plus (sum rule rest) := by rw [sum_append_comm]
      _ = sum rule ([t] ++ [u] ++ rest) := (sum_append _ _).symm
  | trans _ _ ih ih' => exact ih.trans ih'

/-- A row is as good as two that it has the counts of together. -/
theorem sum_plus {u : Totals} (h : u.rule = t.rule) : sum rule [t.plus u] = sum rule [t, u] := by
  by_cases ht : t.rule = rule
  · have hu : sum rule [u] = u := if_pos (h.trans ht)
    have htu : sum rule [t.plus u] = t.plus u := if_pos ht
    rw [htu, sum, if_pos ht, hu]
  · rw [sum_cons_of_ne ht, sum_cons_of_ne fun hu => ht (h.symm.trans hu)]
    exact sum_cons_of_ne (show (t.plus u).rule ≠ rule from ht)

/-- A sum has failures if a row of the rule has. -/
theorem one_le_failed_sum : 1 ≤ (sum rule rows).failed ↔ ∃ t ∈ rows, t.rule = rule ∧ 1 ≤ t.failed := by
  induction rows with
  | nil => exact ⟨nofun, nofun⟩
  | cons t rest ih =>
    simp only [List.mem_cons, exists_eq_or_imp]
    rw [← ih, sum]
    split
    · next h =>
      show 1 ≤ t.failed + (sum rule rest).failed ↔ _
      simp only [h, true_and]
      omega
    · next h => simp only [h, false_and, false_or]

/-- Rows of different rules are told by their rules and sums. -/
theorem eq_map_sum (h : (rows.map Totals.rule).Nodup) :
    rows = (rows.map Totals.rule).map fun rule => sum rule rows := by
  induction rows with
  | nil => rfl
  | cons t rest ih =>
    rw [List.map_cons, List.nodup_cons] at h
    obtain ⟨hnew, hrest⟩ := h
    have hother : ∀ u ∈ rest, u.rule ≠ t.rule := fun u hu he => hnew (he ▸ List.mem_map_of_mem hu)
    have hhead : sum t.rule (t :: rest) = t := by
      rw [sum, if_pos rfl, sum_eq_of_forall_ne hother, plus_zero]
    have htail : (rest.map Totals.rule).map (fun rule => sum rule (t :: rest)) =
        (rest.map Totals.rule).map fun rule => sum rule rest :=
      List.map_congr_left fun rule hmem => sum_cons_of_ne fun he => hnew (he ▸ hmem)
    rw [List.map_cons, List.map_cons, hhead, htail, ← ih hrest]

/-! ## One event -/

/-- An event is counted for its own rule. -/
theorem sum_add : sum rule (add rows e) = sum rule (rows ++ [e.row]) := by
  induction rows with
  | nil => rfl
  | cons t rest ih =>
    rw [add, List.cons_append, sum]
    split
    · next hrule =>
      show sum rule (t.plus e.row :: rest) = _
      rw [sum_append, sum]
      by_cases h : t.rule = rule
      · have hrow : sum rule [e.row] = e.row := if_pos (hrule.symm.trans h)
        rw [if_pos h, if_pos (show (t.plus e.row).rule = rule from h), hrow, plus_assoc,
          plus_comm (rule_sum.trans (h.symm.trans hrule))]
      · have hrow : sum rule [e.row] = ⟨rule, 0, 0⟩ := if_neg fun he => h (hrule.trans he)
        rw [if_neg h, if_neg (show (t.plus e.row).rule ≠ rule from h), hrow, plus_zero]
    · rw [sum, ih]

theorem map_rule_add : (add rows e).map Totals.rule =
    if e.rule ∈ rows.map Totals.rule then rows.map Totals.rule
    else rows.map Totals.rule ++ [e.rule] := by
  induction rows with
  | nil => rfl
  | cons t rest ih =>
    unfold add
    by_cases hrule : t.rule = e.rule
    · rw [if_pos hrule, if_pos (by rw [List.map_cons, hrule]; exact List.mem_cons_self)]
      rfl
    · rw [if_neg hrule, List.map_cons, List.map_cons, ih]
      have hmem : e.rule ∈ t.rule :: rest.map Totals.rule ↔ e.rule ∈ rest.map Totals.rule :=
        List.mem_cons.trans (or_iff_right fun he => hrule he.symm)
      by_cases h : e.rule ∈ rest.map Totals.rule
      · rw [if_pos h, if_pos (hmem.2 h)]
      · rw [if_neg h, if_neg fun hc => h (hmem.1 hc), List.cons_append]

theorem nodup_add (h : (rows.map Totals.rule).Nodup) : ((add rows e).map Totals.rule).Nodup := by
  rw [map_rule_add]
  split
  · exact h
  · next hnew =>
    refine List.nodup_append.2 ⟨h, List.pairwise_singleton _ _, fun a ha b hb => ?_⟩
    rw [List.mem_singleton.1 hb]
    exact fun he => hnew (he ▸ ha)

end Totals

/-! ## Any number of events -/

variable {events : List Event} {e : Event} {rule : String}

theorem totals_concat : totals (events ++ [e]) = Totals.add (totals events) e := by
  rw [totals, List.foldl_append]
  rfl

theorem rulesSeen_concat : rulesSeen (events ++ [e]) =
    if e.rule ∈ rulesSeen events then rulesSeen events else rulesSeen events ++ [e.rule] := by
  have hmem : e.rule ∈ rulesSeen events ↔ (events.map Event.rule).elem e.rule = true :=
    List.mem_eraseDups.trans List.elem_iff.symm
  have hseen : rulesSeen (events ++ [e]) =
      rulesSeen events ++ ([e.rule].removeAll (events.map Event.rule)).eraseDups := by
    unfold rulesSeen
    rw [List.map_append, List.eraseDups_append]
    rfl
  rw [hseen, List.removeAll]
  split
  · next h =>
    rw [List.filter_cons_of_neg (by rw [hmem.1 h]; decide)]
    exact List.append_nil _
  · next h =>
    rw [List.filter_cons_of_pos (by rw [Bool.eq_false_iff.2 fun hc => h (hmem.2 hc)]; rfl)]
    rfl

/-- Totals have the rules of the events. -/
theorem map_rule_totals (events : List Event) :
    (totals events).map Totals.rule = rulesSeen events := by
  induction events using List.reverseRecOn with
  | nil => rfl
  | append_singleton events e ih => rw [totals_concat, Totals.map_rule_add, ih, rulesSeen_concat]

theorem nodup_totals (events : List Event) : ((totals events).map Totals.rule).Nodup := by
  induction events using List.reverseRecOn with
  | nil => exact List.nodup_nil
  | append_singleton events e ih => rw [totals_concat]; exact Totals.nodup_add ih

/-- The counts in totals are those of the events. -/
theorem sum_totals (rule : String) (events : List Event) :
    Totals.sum rule (totals events) = Totals.sum rule (events.map Event.row) := by
  induction events using List.reverseRecOn with
  | nil => rfl
  | append_singleton events e ih =>
    rw [totals_concat, Totals.sum_add, Totals.sum_append, ih, List.map_append, Totals.sum_append,
      List.map_singleton]

/-- Totals are the sums of the rules, in the order in which the rules are first seen. -/
theorem totals_eq (events : List Event) :
    totals events = (rulesSeen events).map fun rule => Totals.sum rule (events.map Event.row) := by
  rw [Totals.eq_map_sum (nodup_totals events), map_rule_totals]
  exact List.map_congr_left fun rule _ => sum_totals rule events

/-- The row of a rule is there if the rule is seen, with the sums of the rule. -/
theorem mem_totals {t : Totals} : t ∈ totals events ↔
    t.rule ∈ events.map Event.rule ∧ Totals.sum t.rule (events.map Event.row) = t := by
  rw [totals_eq, List.mem_map]
  constructor
  · rintro ⟨rule, hrule, rfl⟩
    rw [Totals.rule_sum]
    exact ⟨List.mem_eraseDups.1 hrule, rfl⟩
  · rintro ⟨hrule, hsum⟩
    exact ⟨t.rule, List.mem_eraseDups.2 hrule, hsum⟩

end Quarantine
