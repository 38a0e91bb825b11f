import Quarantine.Routing

/-!
# Routed batches

Routing in parts and gathering the outcomes is routing all at once, and each record goes one way.

    routeAll rules (xs ++ ys)      = merge (routeAll rules xs) (routeAll rules ys)
    gather rules outcomes          = routeAll rules records   (the parts, in whatever order)
    routeParallel rules n records  = routeAll rules records
    (routeAll rules records).clean = the records that pass every rule, in order
    (routeAll rules records).quarantined = the others, in order, with the rules they do not pass
    (routeAll rules records).tallies = what each rule counts of the records, in order
-/

namespace Quarantine

/-! ## Tallies -/

namespace Tally

theorem add_assoc (a b c : Tally) : (a.add b).add c = a.add (b.add c) := by
  simp only [add, Nat.add_assoc]

theorem addAll_nil (ts : List Tally) : addAll ts [] = ts := by
  cases ts <;> rfl

theorem addAll_assoc (as bs cs : List Tally) :
    addAll (addAll as bs) cs = addAll as (addAll bs cs) := by
  induction as generalizing bs cs with
  | nil => rfl
  | cons a as ih =>
    cases bs with
    | nil => rfl
    | cons b bs =>
      cases cs with
      | nil => rfl
      | cons c cs =>
        simp only [addAll]
        rw [ih, add_assoc]

theorem length_addAll (as bs : List Tally) :
    (addAll as bs).length = max as.length bs.length := by
  induction as generalizing bs with
  | nil => simp [addAll]
  | cons a as ih =>
    cases bs with
    | nil => simp [addAll]
    | cons b bs =>
      rw [addAll, List.length_cons, ih, List.length_cons, List.length_cons]
      omega

/-- Zeros that a list of tallies is as long as change nothing in it. -/
theorem addAll_zeros {n : Nat} {ts : List Tally} (h : n ≤ ts.length) :
    addAll ts (List.replicate n zero) = ts := by
  induction ts generalizing n with
  | nil =>
    obtain rfl : n = 0 := by simpa using h
    rfl
  | cons t ts ih =>
    cases n with
    | zero => rfl
    | succ n =>
      rw [List.replicate_succ, addAll, ih (by simpa using h)]
      rfl

end Tally

/-! ## Batches -/

/-- Items that differ in something are the same if they agree in it. -/
theorem eq_of_pairwise_ne {α β : Type} {f : α → β} {xs : List α}
    (h : xs.Pairwise fun a b => f a ≠ f b) {a b : α} (ha : a ∈ xs) (hb : b ∈ xs)
    (he : f a = f b) : a = b := by
  refine List.Pairwise.forall_of_forall_of_flip (R := fun a b => f a = f b → a = b)
    ?_ ?_ ?_ ha hb he
  · intro x _ _
    rfl
  · exact h.imp fun hne he => absurd he hne
  · exact h.imp fun hne he => absurd he.symm hne

section

variable (rules : RuleSet)

/-- The tallies of batches, added to tallies before them. -/
def tallied (start : List Tally) (batches : List RoutedBatch) : List Tally :=
  batches.foldl (fun ts b => Tally.addAll ts b.tallies) start

theorem tallied_eq (start : List Tally) (batches : List RoutedBatch) :
    tallied start batches = Tally.addAll start (tallied [] batches) := by
  induction batches generalizing start with
  | nil => exact (Tally.addAll_nil start).symm
  | cons b batches ih =>
    show tallied (Tally.addAll start b.tallies) batches =
      Tally.addAll start (tallied (Tally.addAll [] b.tallies) batches)
    rw [ih, ih (Tally.addAll [] b.tallies), Tally.addAll_assoc]
    rfl

theorem length_tallied (start : List Tally) (batches : List RoutedBatch) :
    start.length ≤ (tallied start batches).length := by
  rw [tallied_eq, Tally.length_addAll]
  exact Nat.le_max_left _ _

theorem routeAll_append (xs ys : List Record) :
    routeAll rules (xs ++ ys) = (routeAll rules xs).merge (routeAll rules ys) := by
  have htallies : tallied (RoutedBatch.new rules.size).tallies
      ((xs ++ ys).map (RoutedBatch.single rules)) =
      Tally.addAll (routeAll rules xs).tallies (routeAll rules ys).tallies := by
    have hlong := length_tallied (RoutedBatch.new rules.size).tallies
      (xs.map (RoutedBatch.single rules))
    rw [RoutedBatch.new, List.length_replicate] at hlong
    show _ = Tally.addAll (tallied _ _) (tallied _ _)
    rw [tallied_eq _ (ys.map _), ← Tally.addAll_assoc, RoutedBatch.new, Tally.addAll_zeros hlong,
      List.map_append, tallied, List.foldl_append]
    exact tallied_eq _ _
  have htallies : (routeAll rules (xs ++ ys)).tallies = _ := htallies
  have hclean : (routeAll rules (xs ++ ys)).clean =
      (routeAll rules xs).clean ++ (routeAll rules ys).clean := by
    simp only [routeAll, List.map_append, List.flatMap_append]
  have hquarantined : (routeAll rules (xs ++ ys)).quarantined =
      (routeAll rules xs).quarantined ++ (routeAll rules ys).quarantined := by
    simp only [routeAll, List.map_append, List.flatMap_append]
  cases hr : routeAll rules (xs ++ ys) with
  | mk clean quarantined tallies =>
    rw [hr] at htallies hclean hquarantined
    rw [RoutedBatch.merge, ← htallies, ← hclean, ← hquarantined]

/-! ### Where a record goes -/

/-- Whether a record passes every rule. -/
def RuleSet.accepts (r : Record) : Bool := Judgement.allPassed (rules.judge r)

/-- The rules that a record does not pass. -/
def RuleSet.failing (r : Record) : List String := Judgement.failing (rules.judge r)

theorem clean_routeAll (records : List Record) :
    (routeAll rules records).clean = records.filter rules.accepts := by
  show (records.map (RoutedBatch.single rules)).flatMap RoutedBatch.clean = _
  induction records with
  | nil => rfl
  | cons r records ih =>
    rw [List.map_cons, List.flatMap_cons, ih, List.filter_cons]
    unfold RoutedBatch.single route RuleSet.accepts
    by_cases h : Judgement.allPassed (rules.judge r) = true
    · simp only [if_pos h]
      rfl
    · simp only [if_neg h]
      rfl

theorem quarantined_routeAll (records : List Record) : (routeAll rules records).quarantined =
    (records.filter fun r => !rules.accepts r).map fun r => ⟨r, rules.failing r⟩ := by
  show (records.map (RoutedBatch.single rules)).flatMap RoutedBatch.quarantined = _
  induction records with
  | nil => rfl
  | cons r records ih =>
    rw [List.map_cons, List.flatMap_cons, ih, List.filter_cons]
    unfold RoutedBatch.single route RuleSet.accepts RuleSet.failing
    by_cases h : Judgement.allPassed (rules.judge r) = true
    · simp only [h]
      rfl
    · simp only [Bool.eq_false_iff.2 h]
      rfl

/-! ### What a quarantined record lists -/

theorem Verdict.passed_eq (v : Verdict) : v.passed = decide (v = .pass) := by
  cases v <;> rfl

theorem RuleSet.accepts_eq (r : Record) :
    rules.accepts r = rules.rules.all fun rule => decide ((rule.judge r).verdict = .pass) := by
  unfold accepts Judgement.allPassed judge Judgement.passed
  rw [List.all_map]
  simp only [Function.comp_def, Verdict.passed_eq]

theorem RuleSet.failing_eq (r : Record) : rules.failing r =
    (rules.rules.filter fun rule => decide ((rule.judge r).verdict ≠ .pass)).map Rule.name := by
  unfold failing Judgement.failing judge Judgement.passed
  rw [List.filter_map, List.map_map]
  simp only [Function.comp_def, Verdict.passed_eq, ← decide_not]
  rfl

variable {rules}

theorem RuleSet.mem_failing {r : Record} {name : String} :
    name ∈ rules.failing r ↔
      ∃ rule ∈ rules.rules, rule.name = name ∧ (rule.judge r).passed = false := by
  unfold RuleSet.failing Judgement.failing RuleSet.judge
  constructor
  · intro h
    obtain ⟨j, hj, rfl⟩ := List.mem_map.1 h
    obtain ⟨hj, hp⟩ := List.mem_filter.1 hj
    obtain ⟨rule, hm, rfl⟩ := List.mem_map.1 hj
    exact ⟨rule, hm, rfl, by simpa using hp⟩
  · rintro ⟨rule, hm, rfl, hp⟩
    refine List.mem_map.2 ⟨rule.judge r, List.mem_filter.2 ⟨List.mem_map_of_mem hm, ?_⟩, rfl⟩
    rw [hp]
    rfl

/-- A record that does not pass some rule is not let through. -/
theorem RuleSet.accepts_eq_false {rule : Rule} {r : Record} (hm : rule ∈ rules.rules)
    (h : (rule.judge r).passed = false) : rules.accepts r = false := by
  unfold RuleSet.accepts Judgement.allPassed RuleSet.judge
  refine List.all_eq_false.2 ⟨rule.judge r, List.mem_map_of_mem hm, ?_⟩
  rw [h]
  exact Bool.false_ne_true

/-- A record that is not let through has a rule that it does not pass. -/
theorem RuleSet.failing_ne_nil {r : Record} (h : rules.accepts r = false) :
    rules.failing r ≠ [] := by
  obtain ⟨j, hj, hp⟩ := List.all_eq_false.1 h
  obtain ⟨rule, hm, rfl⟩ := List.mem_map.1 hj
  exact List.ne_nil_of_mem (mem_failing.2 ⟨rule, hm, rfl, Bool.eq_false_iff.2 hp⟩)

theorem RuleSet.nodup_failing (r : Record) : (rules.failing r).Nodup := by
  rw [failing_eq]
  exact rules.distinct.sublist (List.filter_sublist.map Rule.name)

/-- A name stands for one rule of a set. -/
theorem RuleSet.eq_of_name_eq {a b : Rule} (ha : a ∈ rules.rules) (hb : b ∈ rules.rules)
    (h : a.name = b.name) : a = b :=
  eq_of_pairwise_ne (List.pairwise_map.1 rules.distinct) ha hb h

/-- A record lists the name of a rule of the set if it does not pass that rule. -/
theorem RuleSet.name_mem_failing {rule : Rule} {r : Record} (hm : rule ∈ rules.rules) :
    rule.name ∈ rules.failing r ↔ (rule.judge r).passed = false := by
  rw [mem_failing]
  constructor
  · rintro ⟨rule', hm', hname, hp⟩
    obtain rfl := RuleSet.eq_of_name_eq hm' hm hname
    exact hp
  · intro hp
    exact ⟨rule, hm, rfl, hp⟩

variable (rules)

/-! ### What the tallies count -/

/-- How many records pass a rule, and how many do not. -/
def Rule.tally (rule : Rule) (records : List Record) : Tally :=
  ⟨records.countP fun r => (rule.judge r).passed, records.countP fun r => !(rule.judge r).passed⟩

theorem Rule.tally_concat (rule : Rule) (records : List Record) (r : Record) :
    rule.tally (records ++ [r]) =
      (rule.tally records).add (Tally.ofVerdict (rule.judge r).verdict) := by
  have hpassed : (rule.judge r).passed = (rule.judge r).verdict.passed := rfl
  unfold tally Tally.ofVerdict Tally.add
  rw [List.countP_append, List.countP_append, List.countP_singleton, List.countP_singleton, hpassed]
  cases (rule.judge r).verdict.passed <;> rfl

/-- A rule counts a failure if some record does not pass it. -/
theorem Rule.one_le_failed_iff {rule : Rule} {records : List Record} :
    1 ≤ (rule.tally records).failed ↔ ∃ r ∈ records, (rule.judge r).passed = false := by
  show 0 < records.countP _ ↔ _
  rw [List.countP_pos_iff]
  simp only [Bool.not_eq_true']

theorem Tally.addAll_map {α : Type} (f g : α → Tally) (xs : List α) :
    addAll (xs.map f) (xs.map g) = xs.map fun x => (f x).add (g x) := by
  induction xs with
  | nil => rfl
  | cons x xs ih => rw [List.map_cons, List.map_cons, addAll, ih, List.map_cons]

theorem tallies_single (r : Record) : (RoutedBatch.single rules r).tallies =
    rules.rules.map fun rule => Tally.ofVerdict (rule.judge r).verdict := by
  have hverdicts : (rules.judge r).map (fun j => Tally.ofVerdict j.verdict) =
      rules.rules.map fun rule => Tally.ofVerdict (rule.judge r).verdict := List.map_map
  unfold RoutedBatch.single
  dsimp only
  split
  · exact hverdicts
  · exact hverdicts

/-- The tallies count the records for each rule, in the order of the rules. -/
theorem tallies_routeAll (records : List Record) :
    (routeAll rules records).tallies = rules.rules.map fun rule => rule.tally records := by
  have hafter (before records : List Record) :
      tallied (rules.rules.map fun rule => rule.tally before)
          (records.map (RoutedBatch.single rules)) =
        rules.rules.map fun rule => rule.tally (before ++ records) := by
    induction records generalizing before with
    | nil => rw [List.map_nil, List.append_nil, tallied, List.foldl_nil]
    | cons r records ih =>
      rw [List.map_cons, tallied, List.foldl_cons, tallies_single, Tally.addAll_map]
      simp only [← Rule.tally_concat]
      refine (ih (before ++ [r])).trans ?_
      rw [List.append_assoc, List.singleton_append]
  have hstart : (RoutedBatch.new rules.size).tallies =
      rules.rules.map fun rule => rule.tally [] := (List.map_const' ..).symm
  show tallied (RoutedBatch.new rules.size).tallies _ = _
  rw [hstart, hafter, List.nil_append]

theorem Rule.passed_add_failed (rule : Rule) (records : List Record) :
    (rule.tally records).passed + (rule.tally records).failed = records.length := by
  rw [List.length_eq_countP_add_countP fun r => (rule.judge r).passed]
  simp only [tally, decide_not, Bool.decide_eq_true]

/-- A rule counts as failed the quarantined records that list it. -/
theorem Rule.failed_tally_eq {rule : Rule} (hm : rule ∈ rules.rules) (records : List Record) :
    (rule.tally records).failed =
      (routeAll rules records).quarantined.countP fun q => decide (rule.name ∈ q.failedRules) := by
  rw [quarantined_routeAll, List.countP_map, List.countP_filter]
  refine List.countP_congr fun r _ => ?_
  have hlists := RuleSet.name_mem_failing (r := r) hm
  simp only [Function.comp_apply, decide_eq_true_eq, Bool.and_eq_true, Bool.not_eq_true', hlists]
  exact ⟨fun hp => ⟨hp, RuleSet.accepts_eq_false hm hp⟩, And.left⟩

/-- Routing splits the records of a batch in two, each in its order: those with nothing but
passes, and the others, which list the rules that they do not pass, at least one and none twice.
The tally of a rule counts every record once, and as failed those that list the rule. -/
theorem partition_of_routeAll (records : List Record) :
    let passes (r : Record) : Bool :=
      rules.rules.all fun rule => decide ((rule.judge r).verdict = .pass)
    let failing (r : Record) : List String :=
      (rules.rules.filter fun rule => decide ((rule.judge r).verdict ≠ .pass)).map Rule.name
    let batch := routeAll rules records
    batch.clean = records.filter passes ∧
    batch.quarantined = (records.filter fun r => !passes r).map (fun r => ⟨r, failing r⟩) ∧
    (∀ q ∈ batch.quarantined, q.failedRules ≠ [] ∧ q.failedRules.Nodup) ∧
    batch.tallies.length = rules.rules.length ∧
    ∀ i : Fin rules.rules.length, ∃ t : Tally, batch.tallies[i.val]? = some t ∧
      t.passed + t.failed = records.length ∧
      t.failed = batch.quarantined.countP fun q => decide (rules.rules[i].name ∈ q.failedRules) := by
  simp only [← RuleSet.accepts_eq, ← RuleSet.failing_eq]
  refine ⟨clean_routeAll rules records, quarantined_routeAll rules records, ?_, ?_, ?_⟩
  · intro q hq
    rw [quarantined_routeAll] at hq
    obtain ⟨r, hr, rfl⟩ := List.mem_map.1 hq
    have hrefused : rules.accepts r = false := by simpa using (List.mem_filter.1 hr).2
    exact ⟨RuleSet.failing_ne_nil hrefused, RuleSet.nodup_failing r⟩
  · rw [tallies_routeAll, List.length_map]
  · intro i
    have hm : rules.rules[i] ∈ rules.rules := List.getElem_mem i.isLt
    refine ⟨rules.rules[i].tally records, ?_, Rule.passed_add_failed _ records,
      Rule.failed_tally_eq rules hm records⟩
    rw [tallies_routeAll, List.getElem?_map, List.getElem?_eq_getElem i.isLt]
    rfl

/-! ## Partitions -/

theorem flatten_chunksOf {α : Type} {size : Nat} (hs : 0 < size) {fuel : Nat} {xs : List α}
    (h : xs.length ≤ fuel) : (chunksOf size fuel xs).flatten = xs := by
  induction fuel generalizing xs with
  | zero =>
    obtain rfl := List.length_eq_zero_iff.1 (Nat.le_zero.1 h)
    rfl
  | succ fuel ih =>
    cases xs with
    | nil => rfl
    | cons x xs =>
      rw [chunksOf, List.flatten_cons, ih, List.take_append_drop]
      · rw [List.length_drop]
        omega
      · exact List.cons_ne_nil _ _

theorem flatten_partition {α : Type} (partitions : Nat) (xs : List α) :
    (partition partitions xs).flatten = xs := by
  cases xs with
  | nil => rfl
  | cons x xs =>
    refine flatten_chunksOf (Nat.div_pos ?_ (by omega)) (Nat.le_refl _)
    rw [List.length_cons]
    omega

theorem foldl_merge_routeAll (before : List Record) (parts : List (List Record)) :
    (parts.map (routeAll rules)).foldl RoutedBatch.merge (routeAll rules before) =
      routeAll rules (before ++ parts.flatten) := by
  induction parts generalizing before with
  | nil => rw [List.flatten_nil, List.append_nil, List.map_nil, List.foldl_nil]
  | cons part parts ih =>
    rw [List.map_cons, List.foldl_cons, ← routeAll_append, ih, List.flatten_cons,
      List.append_assoc]

/-- The numbers of numbered outcomes ascend. -/
theorem pairwise_numbered {α : Type} (xs : List α) :
    (xs.zipIdx.map fun (x, i) => (i, x)).Pairwise fun a b => a.1 < b.1 := by
  apply List.pairwise_map.2
  have hnumbers := @List.pairwise_lt_range' 0 xs.length 1 (by decide)
  rw [← List.zipIdx_map_snd 0 xs] at hnumbers
  exact List.pairwise_map.1 hnumbers

/-- Outcomes with different numbers are sorted into one list, however they come in. -/
theorem mergeSort_of_perm {α : Type} {outcomes numbered : List (Nat × α)}
    (hp : outcomes.Perm numbered) (hn : numbered.Pairwise fun a b => a.1 < b.1) :
    (outcomes.mergeSort fun a b => a.1 ≤ b.1) = numbered := by
  have hsorted := @List.pairwise_mergeSort (Nat × α) (fun a b => a.1 ≤ b.1)
    (by intro a b c; simp only [decide_eq_true_eq]; omega)
    (by intro a b; simp only [Bool.or_eq_true, decide_eq_true_eq]; omega) outcomes
  have hsame : (outcomes.mergeSort fun a b => a.1 ≤ b.1).Perm numbered :=
    (List.mergeSort_perm outcomes _).trans hp
  refine List.Perm.eq_of_pairwise ?_ hsorted
    (hn.imp fun h => decide_eq_true (Nat.le_of_lt h)) hsame
  intro a b ha hb hab hba
  -- two outcomes of the list with one number are the same
  refine eq_of_pairwise_ne (hn.imp Nat.ne_of_lt) (hsame.mem_iff.1 ha) hb ?_
  exact Nat.le_antisymm (of_decide_eq_true hab) (of_decide_eq_true hba)

/-- Numbered outcomes are gathered in the order of their numbers, however they come in. -/
theorem gather_of_perm {outcomes : List (Nat × RoutedBatch)} {batches : List RoutedBatch}
    (hp : outcomes.Perm (batches.zipIdx.map fun (b, i) => (i, b))) :
    gather rules outcomes = batches.foldl RoutedBatch.merge (RoutedBatch.new rules.size) := by
  rw [gather, mergeSort_of_perm hp (pairwise_numbered batches), List.map_map]
  exact congrArg (List.foldl _ _) (List.zipIdx_map_fst 0 batches)

/-- The parts of a batch are gathered to what routing it at once gives, however they come in. -/
theorem gather_routeParts {partitions : Nat} {records : List Record}
    {outcomes : List (Nat × RoutedBatch)}
    (hp : outcomes.Perm (routeParts rules partitions records)) :
    gather rules outcomes = routeAll rules records := by
  rw [gather_of_perm rules hp]
  have h := foldl_merge_routeAll rules [] (partition partitions records)
  rw [List.nil_append, flatten_partition] at h
  exact h

theorem routeParallel_eq (partitions : Nat) (records : List Record) :
    routeParallel rules partitions records = routeAll rules records :=
  gather_routeParts rules (.refl _)

end

/-! ## Merging -/

namespace RoutedBatch

theorem merge_assoc (a b c : RoutedBatch) : (a.merge b).merge c = a.merge (b.merge c) := by
  unfold merge
  simp only [List.append_assoc, Tally.addAll_assoc]

theorem new_merge (b : RoutedBatch) : (new 0).merge b = b := rfl

theorem merge_new (b : RoutedBatch) : b.merge (new 0) = b := by
  unfold merge new
  simp only [List.append_nil, List.replicate_zero, Tally.addAll_nil]

end RoutedBatch

/-- Routing the parts of a batch, on however many partitions and finished in whatever order, is
routing all of it: routing takes lists one after another to batches merged, and merging is
associative, with the empty batch on either side. -/
theorem routing_of_parts (rules : RuleSet) :
    (∀ partitions records outcomes, outcomes.Perm (routeParts rules partitions records) →
      gather rules outcomes = routeAll rules records) ∧
    (∀ xs ys, routeAll rules (xs ++ ys) = (routeAll rules xs).merge (routeAll rules ys)) ∧
    (∀ a b c : RoutedBatch, (a.merge b).merge c = a.merge (b.merge c)) ∧
    ∀ b : RoutedBatch, (RoutedBatch.new 0).merge b = b ∧ b.merge (RoutedBatch.new 0) = b := by
  refine ⟨?_, routeAll_append rules, RoutedBatch.merge_assoc, ?_⟩
  · intro partitions records outcomes hp
    exact gather_routeParts rules hp
  · intro b
    exact ⟨b.new_merge, b.merge_new⟩

/-- Three parts that finish last to first. -/
theorem routing_of_reversed_parts : ∃ (rules : RuleSet) (records : List Record)
    (outcomes : List (Nat × RoutedBatch)), rules.names ≠ [] ∧ outcomes.map Prod.fst = [2, 1, 0] ∧
      outcomes.Perm (routeParts rules 3 records) ∧
      gather rules outcomes = routeAll rules records := by
  let table : RuleTable := ⟨[⟨"\x7b\x7d is a letter", "\x7b\x7d rlike '^[a-z]$'",
    "concat('', '-') as \x7b\x7d"⟩]⟩
  let rules := (RuleSet.compile table ["c"]).toOption.getD .empty
  let records := ["c", "d", "c", "e", "c"].map fun name => Record.empty.put name (.string "1")
  have hp := List.reverse_perm (routeParts rules 3 records)
  refine ⟨rules, records, _, ?_, ?_, hp, (routing_of_parts rules).1 3 records _ hp⟩
  · decide +kernel
  · decide +kernel

end Quarantine
