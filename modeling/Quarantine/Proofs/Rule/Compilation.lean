import Quarantine.Proofs.Rule.RuleSet
import Quarantine.Proofs.Routing

/-!
# Compiling a table for columns

A table and columns make a rule for each pair of a column and a template, the pairs ordered by
their columns first.  They compile if no two pairs have one name, and otherwise the first pair is
refused whose name an earlier one has.  In what is compiled, numbers and names stand for each
other: for the rules, and for the verdicts on a record.

    compile = .ok _                         ↔ no two pairs have one name
    compile = .error f                      ↔ f tells the first pair that has an earlier name
    rules[column * |templates| + template]  = the rule of the pair
    position? n = some k                    ↔ rule k has the name n
-/

namespace Quarantine

/-! ## Pairs -/

/-- A column and a template, by their numbers. -/
structure Pair (table : RuleTable) (columns : List String) where
  column : Fin columns.length
  template : Fin table.templates.length
  deriving DecidableEq

namespace Pair

variable {table : RuleTable} {columns : List String} {p q : Pair table columns}

/-- The template of a pair, and the rule that it is for the column. -/
def expansion (p : Pair table columns) : Template × Rule :=
  (table.templates[p.template], Rule.expand table.templates[p.template] columns[p.column])

def name (p : Pair table columns) : String := p.expansion.2.name

/-- How many pairs are before a pair. -/
def number (p : Pair table columns) : Nat := p.column * table.templates.length + p.template

/-- The order of the pairs: columns first. -/
def Before (p q : Pair table columns) : Prop :=
  p.column < q.column ∨ p.column = q.column ∧ p.template < q.template

theorem Before.irrefl (p : Pair table columns) : ¬ p.Before p := by
  rintro (h | ⟨-, h⟩)
  · exact Nat.lt_irrefl _ h
  · exact Nat.lt_irrefl _ h

theorem Before.trans {p' : Pair table columns} (h : p.Before q) (h' : q.Before p') :
    p.Before p' := by
  rcases h with h | ⟨he, h⟩
  · rcases h' with h' | ⟨he', -⟩
    · exact .inl (Nat.lt_trans h h')
    · exact .inl (he' ▸ h)
  · rcases h' with h' | ⟨he', h'⟩
    · exact .inl (he ▸ h')
    · exact .inr ⟨he.trans he', Nat.lt_trans h h'⟩

theorem Before.asymm (h : p.Before q) : ¬ q.Before p := fun h' => irrefl p (h.trans h')

/-- All pairs in their order. -/
def all (table : RuleTable) (columns : List String) : List (Pair table columns) :=
  (List.finRange columns.length).flatMap fun column =>
    (List.finRange table.templates.length).map (mk column)

theorem mem_all (p : Pair table columns) : p ∈ all table columns :=
  List.mem_flatMap.2 ⟨p.column, List.mem_finRange _,
    List.mem_map.2 ⟨p.template, List.mem_finRange _, rfl⟩⟩

theorem pairwise_all (table : RuleTable) (columns : List String) :
    (all table columns).Pairwise Before := by
  refine List.pairwise_flatMap.2 ⟨fun column _ => List.pairwise_map.2 ?_, ?_⟩
  · exact (List.pairwise_lt_finRange _).imp fun h => .inr ⟨rfl, h⟩
  · refine (List.pairwise_lt_finRange _).imp fun h p hp q hq => ?_
    obtain ⟨-, -, rfl⟩ := List.mem_map.1 hp
    obtain ⟨-, -, rfl⟩ := List.mem_map.1 hq
    exact .inl h

/-- What comes first in the list of the pairs is what is before. -/
theorem mem_front_iff {front back : List (Pair table columns)}
    (h : all table columns = front ++ p :: back) : q ∈ front ↔ q.Before p := by
  have hpairwise := pairwise_all table columns
  rw [h, List.pairwise_append, List.pairwise_cons] at hpairwise
  obtain ⟨-, ⟨hback, -⟩, hfront⟩ := hpairwise
  refine ⟨fun hq => hfront q hq p List.mem_cons_self, fun hq => ?_⟩
  have hmem := mem_all q
  rw [h] at hmem
  rcases List.mem_append.1 hmem with hmem | hmem
  · exact hmem
  · rcases List.mem_cons.1 hmem with rfl | hmem
    · exact absurd hq (Before.irrefl q)
    · exact absurd hq (hback q hmem).asymm

/-- Lists of one length are strung together such that each is found by its number. -/
theorem getElem?_flatMap_of_length {α β : Type} {f : α → List β} {n : Nat}
    (hlength : ∀ x, (f x).length = n) (xs : List α) (i : Nat) {j : Nat} (hj : j < n) :
    (xs.flatMap f)[i * n + j]? = xs[i]?.bind fun x => (f x)[j]? := by
  induction xs generalizing i with
  | nil => rfl
  | cons x xs ih =>
    rw [List.flatMap_cons]
    cases i with
    | zero =>
      rw [Nat.zero_mul, Nat.zero_add, List.getElem?_append_left (by rw [hlength]; exact hj)]
      rfl
    | succ i =>
      have hpast : (i + 1) * n + j - (f x).length = i * n + j := by
        rw [hlength, Nat.succ_mul]
        omega
      rw [List.getElem?_append_right (by rw [hlength, Nat.succ_mul]; omega), hpast, ih]
      rfl

theorem getElem?_all (p : Pair table columns) : (all table columns)[p.number]? = some p := by
  have hfinRange {n : Nat} (i : Fin n) : (List.finRange n)[i.val]? = some i := by
    rw [List.getElem?_eq_getElem (by rw [List.length_finRange]; exact i.isLt),
      List.getElem_finRange]
    rfl
  unfold all number
  rw [getElem?_flatMap_of_length (fun _ => by rw [List.length_map, List.length_finRange]) _ _
    p.template.isLt, hfinRange, Option.bind_some, List.getElem?_map, hfinRange]
  rfl

theorem length_flatMap_of_length {α β : Type} {f : α → List β} {n : Nat}
    (hlength : ∀ x, (f x).length = n) (xs : List α) : (xs.flatMap f).length = xs.length * n := by
  induction xs with
  | nil => exact (Nat.zero_mul n).symm
  | cons x xs ih =>
    rw [List.flatMap_cons, List.length_append, hlength, ih, List.length_cons, Nat.succ_mul,
      Nat.add_comm]

theorem length_all (table : RuleTable) (columns : List String) :
    (all table columns).length = columns.length * table.templates.length := by
  unfold all
  rw [length_flatMap_of_length (fun _ => by rw [List.length_map, List.length_finRange]),
    List.length_finRange]

theorem map_finRange {α β : Type} (f : α → β) (xs : List α) :
    (List.finRange xs.length).map (fun i => f xs[i]) = xs.map f := by
  have hxs := congrArg (List.map f) (@List.ofFn_getElem α xs)
  rw [List.map_ofFn] at hxs
  rw [← hxs, List.finRange, List.map_ofFn]
  rfl

/-- The expansions of a table are those of the pairs, in their order. -/
theorem expansions_eq (table : RuleTable) (columns : List String) :
    RuleSet.expansions table columns = (all table columns).map expansion := by
  unfold RuleSet.expansions all
  rw [List.map_flatMap, List.flatMap_def, List.flatMap_def, ← map_finRange]
  refine congrArg List.flatten (List.map_congr_left fun i _ => ?_)
  rw [List.map_map, ← map_finRange]
  rfl

/-- That a pair is the first one with the name of an earlier pair. -/
structure FirstRepeated (p : Pair table columns) : Prop where
  repeated : ∃ q : Pair table columns, q.Before p ∧ q.name = p.name
  first : ∀ p' : Pair table columns, p'.Before p → ¬ ∃ q : Pair table columns,
    q.Before p' ∧ q.name = p'.name

end Pair

namespace RuleSet

/-! ## The first repeated name -/

section

variable {seen : List String} {front : List (Template × Rule)} {failure : Failure}

theorem firstDuplicate?_eq_none_iff {xs : List (Template × Rule)} :
    firstDuplicate? seen xs = none ↔
      (xs.map fun x => x.2.name).Nodup ∧ ∀ x ∈ xs, x.2.name ∉ seen := by
  constructor
  · intro h
    obtain ⟨hnames, hseen⟩ := nodup_of_firstDuplicate? h
    rw [List.map_map] at hnames
    exact ⟨hnames, hseen⟩
  · rintro ⟨hnames, hseen⟩
    induction xs generalizing seen with
    | nil => rfl
    | cons x rest ih =>
      obtain ⟨t, rule⟩ := x
      obtain ⟨hfirst, hrest⟩ := List.forall_mem_cons.1 hseen
      obtain ⟨hname, hnames⟩ := List.nodup_cons.1 hnames
      rw [firstDuplicate?, if_neg fun hm => hfirst (List.contains_iff_mem.1 hm)]
      refine ih hnames fun y hy hm => ?_
      rcases List.mem_cons.1 hm with he | hm
      · exact hname (List.mem_map.2 ⟨y, hy, he⟩)
      · exact hrest y hy hm

/-- A name that was there before is a failure, whatever comes after it. -/
theorem firstDuplicate?_of_cut (hfront : firstDuplicate? seen front = none) {t : Template}
    {rule : Rule} (hname : rule.name ∈ seen ∨ ∃ x ∈ front, x.2.name = rule.name)
    (back : List (Template × Rule)) : firstDuplicate? seen (front ++ (t, rule) :: back) =
      some (.duplicateRule rule.name t.name rule.column) := by
  induction front generalizing seen with
  | nil =>
    have hseen : rule.name ∈ seen := hname.resolve_right fun ⟨_, hx, _⟩ => List.not_mem_nil hx
    rw [List.nil_append, firstDuplicate?, if_pos (List.contains_iff_mem.2 hseen)]
  | cons x front ih =>
    rw [firstDuplicate?] at hfront
    rw [List.cons_append, firstDuplicate?]
    split at hfront
    · cases hfront
    · next hx =>
      rw [if_neg hx]
      refine ih hfront ?_
      rcases hname with hname | ⟨y, hy, hname⟩
      · exact .inl (List.mem_cons_of_mem _ hname)
      · rcases List.mem_cons.1 hy with rfl | hy
        · exact .inl (hname ▸ List.mem_cons_self)
        · exact .inr ⟨y, hy, hname⟩

/-- A failure tells a rule that is cut off where its name is there before for the first time. -/
theorem exists_cut_of_firstDuplicate? {xs : List (Template × Rule)}
    (h : firstDuplicate? seen xs = some failure) :
    ∃ front t rule back, xs = front ++ (t, rule) :: back ∧ firstDuplicate? seen front = none ∧
      (rule.name ∈ seen ∨ ∃ x ∈ front, x.2.name = rule.name) ∧
      failure = .duplicateRule rule.name t.name rule.column := by
  induction xs generalizing seen with
  | nil => cases h
  | cons x rest ih =>
    obtain ⟨t, rule⟩ := x
    rw [firstDuplicate?] at h
    split at h
    · next hseen =>
      exact ⟨[], t, rule, rest, rfl, rfl, .inl (List.contains_iff_mem.1 hseen),
        (Option.some.inj h).symm⟩
    · next hseen =>
      obtain ⟨front, t', rule', back, rfl, hfront, hname, rfl⟩ := ih h
      refine ⟨(t, rule) :: front, t', rule', back, rfl, ?_, ?_, rfl⟩
      · rw [firstDuplicate?, if_neg hseen, hfront]
      · rcases hname with hname | ⟨y, hy, hname⟩
        · rcases List.mem_cons.1 hname with hname | hname
          · exact .inr ⟨_, List.mem_cons_self, hname.symm⟩
          · exact .inl hname
        · exact .inr ⟨y, List.mem_cons_of_mem _ hy, hname⟩

end

/-! ## Compiling -/

section

variable {table : RuleTable} {columns : List String}

theorem compile_error_iff_firstDuplicate? {failure : Failure} :
    compile table columns = .error failure ↔
      firstDuplicate? [] (expansions table columns) = some failure := by
  unfold compile
  dsimp only
  split
  · next f hf =>
    rw [hf, Option.some_inj]
    exact ⟨Except.error.inj, congrArg _⟩
  · next hnone =>
    refine ⟨fun h => (by cases h), fun h => ?_⟩
    rw [hnone] at h
    cases h

theorem exists_compile_iff_firstDuplicate? :
    (∃ rules, compile table columns = .ok rules) ↔
      firstDuplicate? [] (expansions table columns) = none := by
  cases h : compile table columns with
  | error f =>
    rw [compile_error_iff_firstDuplicate?.1 h]
    exact ⟨fun ⟨_, h⟩ => (by cases h), fun h => (by cases h)⟩
  | ok rules =>
    refine ⟨fun _ => Option.eq_none_iff_forall_ne_some.2 fun f hf => ?_, fun _ => ⟨rules, rfl⟩⟩
    rw [compile_error_iff_firstDuplicate?.2 hf] at h
    cases h

/-- A table compiles for columns if no two pairs have one name. -/
theorem exists_compile_iff : (∃ rules, compile table columns = .ok rules) ↔
    ∀ p q : Pair table columns, p.name = q.name → p = q := by
  have hnames : ((Pair.all table columns).map Pair.expansion).map (fun x => x.2.name) =
      (Pair.all table columns).map Pair.name := List.map_map
  rw [exists_compile_iff_firstDuplicate?, firstDuplicate?_eq_none_iff, Pair.expansions_eq, hnames,
    and_iff_left fun _ _ => List.not_mem_nil]
  constructor
  · intro h p q hname
    exact eq_of_pairwise_ne (List.pairwise_map.1 h) (Pair.mem_all p) (Pair.mem_all q) hname
  · intro h
    refine List.pairwise_map.2 ((Pair.pairwise_all table columns).imp fun hbefore hname => ?_)
    exact Pair.Before.irrefl _ (h _ _ hname ▸ hbefore)

/-- Up to a pair no name is there twice if no pair before it has the name of an earlier one. -/
theorem nodup_front_iff {p : Pair table columns} {front back : List (Pair table columns)}
    (h : Pair.all table columns = front ++ p :: back) : (front.map Pair.name).Nodup ↔
      ∀ p' : Pair table columns, p'.Before p → ¬ ∃ q : Pair table columns,
        q.Before p' ∧ q.name = p'.name := by
  constructor
  · rintro hnames p' hp' ⟨q, hq, hname⟩
    obtain rfl := eq_of_pairwise_ne (List.pairwise_map.1 hnames)
      ((Pair.mem_front_iff h).2 (hq.trans hp')) ((Pair.mem_front_iff h).2 hp') hname
    exact Pair.Before.irrefl q hq
  · intro hfirst
    have hfront := Pair.pairwise_all table columns
    rw [h] at hfront
    refine List.pairwise_map.2 ((List.pairwise_append.1 hfront).1.imp_of_mem ?_)
    intro a b _ hb hbefore hname
    exact hfirst b ((Pair.mem_front_iff h).1 hb) ⟨a, hbefore, hname⟩

/-- A table that does not compile for columns fails at the first pair with the name of an earlier
one. -/
theorem compile_error_iff {failure : Failure} : compile table columns = .error failure ↔
    ∃ p : Pair table columns, p.FirstRepeated ∧
      failure = .duplicateRule p.name table.templates[p.template].name columns[p.column] := by
  have hnames (front : List (Pair table columns)) :
      (front.map Pair.expansion).map (fun x => x.2.name) = front.map Pair.name := List.map_map
  rw [compile_error_iff_firstDuplicate?, Pair.expansions_eq]
  constructor
  · intro h
    obtain ⟨xs, t, rule, ys, hcut, hnone, hname, rfl⟩ := exists_cut_of_firstDuplicate? h
    obtain ⟨front, rest, hall, rfl, hrest⟩ := List.map_eq_append_iff.1 hcut
    obtain ⟨p, back, rfl, hp, -⟩ := List.map_eq_cons_iff.1 hrest
    obtain ⟨rfl, rfl⟩ := Prod.mk.inj hp
    have hfront := (firstDuplicate?_eq_none_iff.1 hnone).1
    rw [hnames, nodup_front_iff hall] at hfront
    obtain ⟨x, hx, hname⟩ := hname.resolve_left List.not_mem_nil
    obtain ⟨q, hq, rfl⟩ := List.mem_map.1 hx
    exact ⟨p, ⟨⟨q, (Pair.mem_front_iff hall).1 hq, hname⟩, hfront⟩, rfl⟩
  · rintro ⟨p, ⟨⟨q, hq, hname⟩, hfirst⟩, rfl⟩
    obtain ⟨front, back, hall⟩ := List.append_of_mem (Pair.mem_all p)
    rw [hall, List.map_append, List.map_cons]
    refine firstDuplicate?_of_cut (firstDuplicate?_eq_none_iff.2 ⟨?_, ?_⟩) (.inr ?_) _
    · rw [hnames, nodup_front_iff hall]
      exact hfirst
    · exact fun _ _ => List.not_mem_nil
    · exact ⟨_, List.mem_map_of_mem ((Pair.mem_front_iff hall).2 hq), hname⟩

end

/-! ## Numbers and names -/

section

variable (s : RuleSet)

/-- A rule has the number at which its name is found. -/
theorem position?_eq_some_iff {name : String} {k : Nat} :
    s.position? name = some k ↔ ∃ rule, s.rules[k]? = some rule ∧ rule.name = name := by
  unfold position?
  rw [List.findIdx?_eq_some_iff_getElem]
  constructor
  · rintro ⟨hk, hname, -⟩
    exact ⟨_, List.getElem?_eq_getElem hk, beq_iff_eq.1 hname⟩
  · rintro ⟨rule, hrule, hname⟩
    obtain ⟨hk, rfl⟩ := List.getElem?_eq_some_iff.1 hrule
    refine ⟨hk, beq_iff_eq.2 hname, fun j hj hname' => ?_⟩
    -- another rule with the name would be the same one
    have hdistinct := List.pairwise_iff_getElem.1 (List.pairwise_map.1 s.distinct)
    exact hdistinct j k _ hk hj ((beq_iff_eq.1 hname').trans hname.symm)

/-- A rule is found by its name where its number is. -/
theorem get?_eq_bind_position? (name : String) :
    s.get? name = (s.position? name).bind (s.rules[·]?) :=
  List.find?_eq_bind_findIdx?_getElem?

/-- The verdict that is found by the name of a rule is the verdict of that rule. -/
theorem find?_judge (r : Record) (name : String) :
    Judgement.find? (s.judge r) name = (s.get? name).map fun rule => (rule.judge r).verdict := by
  unfold Judgement.find? judge get?
  rw [List.find?_map, Option.map_map]
  rfl

end

/-- That a rule set has the rules of all pairs, found by their numbers and by their names. -/
structure Compiled (s : RuleSet) (table : RuleTable) (columns : List String) : Prop where
  schema : s.columns = columns
  size : s.size = columns.length * table.templates.length
  rules : ∀ p : Pair table columns, s.rules[p.number]? =
    some (Rule.expand table.templates[p.template] columns[p.column])
  position : ∀ name k, s.position? name = some k ↔
    ∃ rule, s.rules[k]? = some rule ∧ rule.name = name
  /-- No two rules have one name. -/
  single : ∀ (k k' : Nat) (rule rule' : Rule), s.rules[k]? = some rule → s.rules[k']? = some rule' →
    rule.name = rule'.name → k = k'
  get : ∀ name, s.get? name = (s.position? name).bind (s.rules[·]?)
  /-- The verdict at the number of a rule is the one at its name. -/
  verdict : ∀ r (k : Nat) (rule : Rule), s.rules[k]? = some rule → ∃ v,
    (s.judge r)[k]?.map Judgement.verdict = some v ∧
      Judgement.find? (s.judge r) rule.name = some v

section

variable {table : RuleTable} {columns : List String} {rules : RuleSet}

theorem columns_of_compile (h : compile table columns = .ok rules) : rules.columns = columns := by
  unfold compile at h
  dsimp only at h
  split at h
  · cases h
  · rw [← Except.ok.inj h]

theorem compiled_of_compile (h : compile table columns = .ok rules) :
    rules.Compiled table columns := by
  have hrules := rules_of_compile h
  rw [Pair.expansions_eq, List.map_map] at hrules
  have hposition {k : Nat} {rule : Rule} (hrule : rules.rules[k]? = some rule) :
      rules.position? rule.name = some k := (rules.position?_eq_some_iff).2 ⟨rule, hrule, rfl⟩
  constructor
  case schema => exact columns_of_compile h
  case size => rw [size, hrules, List.length_map, Pair.length_all]
  case rules =>
    intro p
    rw [hrules, List.getElem?_map, Pair.getElem?_all]
    rfl
  case position => exact fun _ _ => rules.position?_eq_some_iff
  case single =>
    intro k k' rule rule' hrule hrule' hname
    exact Option.some.inj ((hposition hrule).symm.trans (hname ▸ hposition hrule'))
  case get => exact rules.get?_eq_bind_position?
  case verdict =>
    intro r k rule hrule
    refine ⟨(rule.judge r).verdict, ?_, ?_⟩
    · rw [judge, List.getElem?_map, hrule]
      rfl
    · rw [find?_judge, get?_eq_bind_position?, hposition hrule, Option.bind_some, hrule]
      rfl

end

/-- A table compiles for columns if no two pairs of a column and a template have one name, and
otherwise fails at the first pair with the name of an earlier one.  What is compiled has the rules
of the pairs in their order. -/
theorem compile_by_pairs (table : RuleTable) (columns : List String) :
    ((∃ rules, compile table columns = .ok rules) ↔
      ∀ p q : Pair table columns, p.name = q.name → p = q) ∧
    (∀ failure, compile table columns = .error failure ↔
      ∃ p : Pair table columns, p.FirstRepeated ∧
        failure = .duplicateRule p.name table.templates[p.template].name columns[p.column]) ∧
    ∀ rules, compile table columns = .ok rules → rules.Compiled table columns :=
  ⟨exists_compile_iff, fun _ => compile_error_iff, fun _ => compiled_of_compile⟩

/-- A rule for each column, and one with a name that a column can have. -/
def nameTable : RuleTable :=
  ⟨[⟨"\x7b\x7d", "\x7b\x7d rlike 'a'", "'-' as \x7b\x7d"⟩, ⟨"x", "'a' rlike 'a'", "'-' as y"⟩]⟩

/-- For `y` the table compiles; for `y` and `x` the first rule of `x` has the name of the second
rule of `y`. -/
theorem compile_by_pairs_names :
    (∃ rules, compile nameTable ["y"] = .ok rules ∧ rules.Compiled nameTable ["y"] ∧
      rules.names = ["y", "x"]) ∧
    compile nameTable ["y", "x"] = .error (.duplicateRule "x" "\x7b\x7d" "x") ∧
    ∃ p : Pair nameTable ["y", "x"], p.FirstRepeated ∧ p.name = "x" := by
  have hnames : (compile nameTable ["y"]).toOption.map names = some ["y", "x"] := by decide +kernel
  have hfirst : firstDuplicate? [] (expansions nameTable ["y", "x"]) =
      some (.duplicateRule "x" "\x7b\x7d" "x") := by decide +kernel
  have herror := compile_error_iff_firstDuplicate?.2 hfirst
  obtain ⟨p, hp, hfailure⟩ := ((compile_by_pairs nameTable ["y", "x"]).2.1 _).1 herror
  refine ⟨?_, herror, p, hp, (Failure.duplicateRule.inj hfailure).1.symm⟩
  cases hcompiled : compile nameTable ["y"] with
  | error e =>
    rw [hcompiled] at hnames
    cases hnames
  | ok rules =>
    rw [hcompiled] at hnames
    exact ⟨rules, rfl, (compile_by_pairs nameTable ["y"]).2.2 rules hcompiled,
      Option.some.inj hnames⟩

end RuleSet
end Quarantine
