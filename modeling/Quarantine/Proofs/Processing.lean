import Quarantine.Proofs.Disclosure
import Quarantine.Proofs.Expr.Columns
import Quarantine.Proofs.Rule.Sight

/-!
# Redactions one after the other

A redaction writes a column that the record has, so a record keeps its columns and their order,
and each redaction sees what the ones before it left.  Where every action looks at the column of
its rule and at no other, and writes that column, rules of different columns do not notice each
other, and it does not matter which column comes first.

    redactWith r rules = .ok r'  →  columns r' = columns r
    redactWith r (xs ++ ys)      =  redactWith r xs, and then redactWith _ ys
    columns ~ columns'           →  their blocks of rules redact a record to the same
-/

namespace Quarantine

open Quarantine.Json

/-! ## Records by their columns -/

theorem Json.Fields.eq_of_get? {fs gs : Fields} (hnames : names fs = names gs)
    (hdistinct : (names fs).Nodup) (hget : ∀ name ∈ names fs, get? fs name = get? gs name) :
    fs = gs := by
  induction fs generalizing gs with
  | nil => exact (List.map_eq_nil_iff.1 hnames.symm).symm
  | cons f fs ih =>
    obtain ⟨n, v⟩ := f
    obtain ⟨⟨m, w⟩, gs', rfl, hm, hrest⟩ := List.map_eq_cons_iff.1 hnames.symm
    obtain rfl : m = n := hm
    obtain ⟨hnot, hdistinct⟩ := List.nodup_cons.1 hdistinct
    have hfirst := hget m List.mem_cons_self
    rw [get?_cons, get?_cons, if_pos rfl, if_pos rfl] at hfirst
    obtain rfl := Option.some.inj hfirst
    rw [ih hrest.symm hdistinct fun name hname => ?_]
    have hne : name ≠ m := fun he => hnot (he ▸ hname)
    have hlater := hget name (List.mem_cons_of_mem _ hname)
    rwa [get?_cons, get?_cons, if_neg hne, if_neg hne] at hlater

/-- Records with the same columns in the same order, and the same values, are equal. -/
theorem Record.eq_of_get? {r s : Record} (hcolumns : r.columns = s.columns)
    (hget : ∀ c, r.get? c = s.get? c) : r = s :=
  Record.ext (Fields.eq_of_get? hcolumns r.distinct fun c _ => hget c)

theorem Record.columns_put_of_mem {r : Record} {c : String} (h : c ∈ r.columns) (v : Value) :
    (r.put c v).columns = r.columns := by
  rw [columns_put, if_pos h]

/-! ## One redaction -/

section

variable {rule : Rule} {rules xs ys : List Rule} {r r' s : Record} {b c target : String} {v : Value}

/-- A redaction gives the value of the action for a column that the record has. -/
theorem Rule.redact_ok_iff : rule.redact r = .ok (target, v) ↔
    ∃ red, rule.redaction = .ok red ∧ red.target = target ∧ target ∈ r.columns ∧
      red.expr.eval r = .ok v := by
  unfold redact
  cases hred : rule.redaction with
  | error e =>
    refine ⟨fun h => (by cases h), ?_⟩
    rintro ⟨red, hred, -⟩
    cases hred
  | ok red =>
    dsimp only
    unfold Redaction.evaluate Record.contains
    constructor
    · intro h
      split at h
      · cases h
      · next w hw =>
        obtain ⟨rfl, rfl⟩ := Prod.mk.inj (Except.ok.inj h)
        split at hw
        · next hcontains => exact ⟨red, rfl, rfl, List.contains_iff_mem.1 hcontains, hw⟩
        · cases hw
    · rintro ⟨red', hred', rfl, hmem, hv⟩
      obtain rfl := Except.ok.inj hred'
      rw [if_pos (List.contains_iff_mem.2 hmem), hv]

/-- A redaction keeps the columns of a record. -/
theorem Rule.columns_put_of_redact (h : rule.redact r = .ok (target, v)) :
    (r.put target v).columns = r.columns := by
  obtain ⟨-, -, -, hmem, -⟩ := redact_ok_iff.1 h
  exact Record.columns_put_of_mem hmem v

/-! ## Redactions in a row -/

theorem redactWith_cons_ok_iff : redactWith r (rule :: rules) = .ok r' ↔
    ∃ target v, rule.redact r = .ok (target, v) ∧ redactWith (r.put target v) rules = .ok r' := by
  rw [redactWith]
  cases hredact : rule.redact r with
  | error e =>
    refine ⟨fun h => (by cases h), ?_⟩
    rintro ⟨target, v, h, -⟩
    cases h
  | ok x =>
    refine ⟨fun h => ⟨x.1, x.2, rfl, h⟩, ?_⟩
    rintro ⟨target, v, h, hrest⟩
    cases h
    exact hrest

/-- What is left where the failure of a redaction is not asked for. -/
theorem toOption_redactWith_append (r : Record) (xs ys : List Rule) :
    (redactWith r (xs ++ ys)).toOption =
      (redactWith r xs).toOption.bind fun r' => (redactWith r' ys).toOption := by
  induction xs generalizing r with
  | nil => rfl
  | cons rule xs ih =>
    rw [List.cons_append, redactWith, redactWith]
    cases rule.redact r with
    | error e => rfl
    | ok x => exact ih (r.put x.1 x.2)

/-- Redactions keep the columns of a record and their order. -/
theorem columns_redactWith (h : redactWith r rules = .ok r') : r'.columns = r.columns := by
  induction rules generalizing r with
  | nil => rw [Except.ok.inj h]
  | cons rule rules ih =>
    obtain ⟨target, v, hredact, hrest⟩ := redactWith_cons_ok_iff.1 h
    rw [ih hrest, Rule.columns_put_of_redact hredact]

/-- A column that no action writes keeps its value. -/
theorem get?_redactWith_of_ne (h : redactWith r rules = .ok r')
    (hne : ∀ rule ∈ rules, ∀ red, rule.redaction = .ok red → red.target ≠ c) :
    r'.get? c = r.get? c := by
  induction rules generalizing r with
  | nil => rw [Except.ok.inj h]
  | cons rule rules ih =>
    obtain ⟨target, v, hredact, hrest⟩ := redactWith_cons_ok_iff.1 h
    obtain ⟨red, hred, rfl, -⟩ := Rule.redact_ok_iff.1 hredact
    have htarget := hne rule List.mem_cons_self red hred
    rw [ih hrest fun rule hm => hne rule (List.mem_cons_of_mem _ hm), Record.get?_put,
      if_neg (Ne.symm htarget)]

/-! ## Rules that keep to their column -/

/-- That the action of a rule, if it can be read, looks at no column but that of the rule, and
writes that column. -/
def Rule.OwnColumn (rule : Rule) : Prop :=
  ∀ red, rule.redaction = .ok red →
    red.target = rule.column ∧ ∀ c ∈ red.expr.columns, c = rule.column

/-- The rest of a record does not matter for such a rule. -/
theorem Rule.OwnColumn.redact_congr (h : rule.OwnColumn)
    (hget : r.get? rule.column = s.get? rule.column) : rule.redact r = rule.redact s := by
  refine Rule.redact_congr fun red hred => ?_
  obtain ⟨htarget, hcolumns⟩ := h red hred
  refine ⟨?_, fun c hc => by rw [hcolumns c hc, hget]⟩
  have hthere (r : Record) : red.target ∈ r.columns ↔ (r.get? rule.column).isSome := by
    rw [← htarget, isSome_get?]
    exact List.contains_iff_mem.symm
  rw [hthere, hthere, hget]

/-- That rules are rules of a column, and keep to it. -/
def OfColumn (c : String) (rules : List Rule) : Prop :=
  ∀ rule ∈ rules, rule.column = c ∧ rule.OwnColumn

theorem OfColumn.target_eq (h : OfColumn c rules) (hm : rule ∈ rules) {red : Redaction}
    (hred : rule.redaction = .ok red) : red.target = c := by
  obtain ⟨rfl, hown⟩ := h rule hm
  exact (hown red hred).1

/-- Rules of a column do to it whatever they do, whatever else is in the record. -/
theorem OfColumn.redactWith_congr (h : OfColumn c rules) (hget : r.get? c = s.get? c) :
    Alike Eq (fun r' s' => r'.get? c = s'.get? c) (redactWith r rules) (redactWith s rules) := by
  induction rules generalizing r s with
  | nil => exact .ok hget
  | cons rule rules ih =>
    obtain ⟨rfl, hown⟩ := h rule List.mem_cons_self
    rw [redactWith, redactWith, hown.redact_congr hget]
    cases hredact : rule.redact s with
    | error e => exact .error rfl
    | ok x =>
      obtain ⟨red, hred, htarget, -⟩ := Rule.redact_ok_iff.1 hredact
      have hcolumn : x.1 = rule.column := htarget.symm.trans (hown red hred).1
      refine ih (fun rule hm => h rule (List.mem_cons_of_mem _ hm)) ?_
      rw [Record.get?_put, Record.get?_put, if_pos hcolumn.symm, if_pos hcolumn.symm]

/-- Rules of another column keep the value of a column. -/
theorem OfColumn.get?_redactWith (h : OfColumn b rules) (hne : b ≠ c)
    (hredact : redactWith r rules = .ok r') : r'.get? c = r.get? c :=
  get?_redactWith_of_ne hredact fun _ hm _ hred => h.target_eq hm hred ▸ hne

/-- Two columns may be redacted in either order. -/
theorem redactWith_swap (hne : b ≠ c) (hxs : OfColumn b xs) (hys : OfColumn c ys) (r : Record) :
    (redactWith r (xs ++ ys)).toOption = (redactWith r (ys ++ xs)).toOption := by
  have hafter {b c : String} (hne : b ≠ c) {xs ys : List Rule} (hxs : OfColumn b xs)
      (hys : OfColumn c ys) {s : Record} (hs : redactWith r xs = .ok s) :=
    hys.redactWith_congr (hxs.get?_redactWith hne hs).symm
  rw [toOption_redactWith_append, toOption_redactWith_append]
  cases hx : redactWith r xs with
  | error e =>
    cases hy : redactWith r ys with
    | error f => rfl
    | ok t =>
      obtain ⟨f, hf, -⟩ := (hx ▸ hafter hne.symm hys hxs hy).exists_of_error
      show none = (redactWith t xs).toOption
      rw [hf]
      rfl
  | ok s =>
    cases hy : redactWith r ys with
    | error f =>
      obtain ⟨e, he, -⟩ := (hy ▸ hafter hne hxs hys hx).exists_of_error
      show (redactWith s ys).toOption = none
      rw [he]
      rfl
    | ok t =>
      obtain ⟨u, hu, hcu⟩ := (hy ▸ hafter hne hxs hys hx).exists_of_ok
      obtain ⟨w, hw, hbw⟩ := (hx ▸ hafter hne.symm hys hxs hy).exists_of_ok
      show (redactWith s ys).toOption = (redactWith t xs).toOption
      rw [hu, hw]
      refine congrArg some (Record.eq_of_get? ?_ fun d => ?_)
      · rw [columns_redactWith hu, columns_redactWith hx, columns_redactWith hw,
          columns_redactWith hy]
      · by_cases hb : b = d
        · subst hb
          rw [← hbw, hys.get?_redactWith hne.symm hu]
        · by_cases hc : c = d
          · subst hc
            rw [← hcu, hxs.get?_redactWith hne hw]
          · rw [hys.get?_redactWith hc hu, hxs.get?_redactWith hb hx, hxs.get?_redactWith hb hw,
              hys.get?_redactWith hc hy]

/-- Columns may be redacted in any order, if the rules of each stay together. -/
theorem redactWith_perm {columns columns' : List String} (hperm : columns.Perm columns')
    {block : String → List Rule} (hblock : ∀ c ∈ columns, OfColumn c (block c)) (r : Record) :
    (redactWith r (columns.flatMap block)).toOption =
      (redactWith r (columns'.flatMap block)).toOption := by
  induction hperm generalizing r with
  | nil => rfl
  | cons c _ ih =>
    rw [List.flatMap_cons, List.flatMap_cons, toOption_redactWith_append,
      toOption_redactWith_append]
    exact congrArg _ (funext (ih fun d hd => hblock d (List.mem_cons_of_mem _ hd)))
  | swap b c columns =>
    have hswap : (redactWith r (block c ++ block b)).toOption =
        (redactWith r (block b ++ block c)).toOption := by
      by_cases hne : c = b
      · rw [hne]
      · exact redactWith_swap hne (hblock c List.mem_cons_self)
          (hblock b (List.mem_cons_of_mem _ List.mem_cons_self)) r
    simp only [List.flatMap_cons, ← List.append_assoc]
    rw [toOption_redactWith_append r (block c ++ block b),
      toOption_redactWith_append r (block b ++ block c), hswap]
  | trans hperm _ ih ih' =>
    exact (ih hblock r).trans (ih' (fun c hc => hblock c (hperm.mem_iff.2 hc)) r)

end

/-! ## Processed records -/

namespace Plan

variable (p : Plan) (q : Quarantined)

theorem record_process : (p.process q).record = (p.redact q.record).toOption.getD q.record := by
  unfold process
  cases p.redact q.record <;> rfl

theorem isRedacted_process : (p.process q).isRedacted = (p.redact q.record).toOption.isSome := by
  unfold process
  cases p.redact q.record <;> rfl

theorem failedRules_process : (p.process q).failedRules = q.failedRules := by
  unfold process
  cases p.redact q.record <;> rfl

end Plan

end Quarantine
