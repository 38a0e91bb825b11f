import Quarantine.Proofs.Disclosure

/-!
# What a rule looks at

A rule looks at the columns of its predicate when it judges, and at those of its action when it
redacts; then it also asks whether the record has the column that is written.  What else a record
holds does not matter, and no column but these is ever reported as missing.

    r and r' agree on p.subject.columns    →  rule.judge r  = rule.judge r'
    r and r' agree on red.expr.columns,
      and both or none has red.target      →  rule.redact r = rule.redact r'
-/

namespace Quarantine

open Quarantine.Json

/-! ## Agreement -/

/-- That each of some columns is in both records with the same value, or in neither. -/
def Record.AgreeOn (names : List String) (r r' : Record) : Prop :=
  ∀ c ∈ names, r.get? c = r'.get? c

section

variable {rule : Rule} {r r' : Record} {p : Predicate} {red : Redaction}

theorem Record.get?_eq_none_iff {c : String} : r.get? c = none ↔ c ∉ r.columns := by
  rw [← Option.not_isSome_iff_eq_none, isSome_get?]
  exact not_congr List.contains_iff_mem

theorem Predicate.holds_congr (h : r.AgreeOn p.subject.columns r') : p.holds r = p.holds r' := by
  unfold holds
  rw [Expr.eval_congr p.subject h]

theorem Redaction.evaluate_congr (htarget : red.target ∈ r.columns ↔ red.target ∈ r'.columns)
    (h : r.AgreeOn red.expr.columns r') : red.evaluate r = red.evaluate r' := by
  have hcontains : r.contains red.target = r'.contains red.target :=
    Bool.eq_iff_iff.2 (List.contains_iff_mem.trans (htarget.trans List.contains_iff_mem.symm))
  unfold evaluate
  rw [hcontains, Expr.eval_congr red.expr h]

theorem Rule.check_congr (h : ∀ p, rule.predicate = .ok p → r.AgreeOn p.subject.columns r') :
    rule.check r = rule.check r' := by
  unfold check
  cases hp : rule.predicate with
  | error e => rfl
  | ok p =>
    dsimp only
    rw [Predicate.holds_congr (h p hp)]

theorem Rule.redact_congr (h : ∀ red, rule.redaction = .ok red →
    (red.target ∈ r.columns ↔ red.target ∈ r'.columns) ∧ r.AgreeOn red.expr.columns r') :
    rule.redact r = rule.redact r' := by
  unfold redact
  cases hred : rule.redaction with
  | error e => rfl
  | ok red =>
    obtain ⟨htarget, hcolumns⟩ := h red hred
    dsimp only
    rw [Redaction.evaluate_congr htarget hcolumns]

end

/-- The columns that an expression lists are those that it can see, each listed once: the rest of a
record has no part in its value, and only a listed column that the record lacks is missed.  So a
verdict comes from the columns of the predicate, and a redaction from those of the action and from
whether the written column is there. -/
theorem columns_are_seen :
    (∀ e : Expr, e.columns.Nodup ∧
      (∀ r r' : Record, r.AgreeOn e.columns r' → e.eval r = e.eval r') ∧
      (∀ (r : Record) c, e.eval r = .error (.missingColumn c) → c ∈ e.columns ∧ c ∉ r.columns) ∧
      ∀ r : Record, (∀ c ∈ e.columns, c ∈ r.columns) →
        ∀ c, e.eval r ≠ .error (.missingColumn c)) ∧
    (∀ (rule : Rule) (r r' : Record),
      (∀ p, rule.predicate = .ok p → r.AgreeOn p.subject.columns r') →
        rule.judge r = rule.judge r') ∧
    ∀ (rule : Rule) (r r' : Record),
      (∀ red, rule.redaction = .ok red →
        (red.target ∈ r.columns ↔ red.target ∈ r'.columns) ∧ r.AgreeOn red.expr.columns r') →
        rule.redact r = rule.redact r' := by
  refine ⟨fun e => ?_, fun rule r r' h => ?_, fun rule r r' h => Rule.redact_congr h⟩
  · have hmisses (r : Record) (c : String) (h : e.eval r = .error (.missingColumn c)) :
        c ∈ e.columns ∧ c ∉ r.columns :=
      (Expr.misses_eval r e c h).imp_right Record.get?_eq_none_iff.1
    refine ⟨Expr.nodup_columnsAfter e List.nodup_nil, fun r r' h => Expr.eval_congr e h, hmisses,
      fun r hall c h => ?_⟩
    obtain ⟨hc, hlacks⟩ := hmisses r c h
    exact hlacks (hall c hc)
  · rw [Rule.judge, Rule.judge, Rule.check_congr h]

/-! ## A case -/

namespace Rule

/-- A rule for column `a` that looks at column `b` as well, and whose action looks at `b` only. -/
def beside : Rule :=
  expand ⟨"\x7b\x7d beside b", "concat(\x7b\x7d, `b`) NOT REGEXP '^xy'", "substr(`b`, 2) AS \x7b\x7d"⟩
    "a"

def besideRecord : Record := (Record.empty.put "a" (.string "x")).put "b" (.string "yz")

end Rule

/-- A third column does not matter to the rule, nor the value of the written column to its action;
without the second column that one is missed. -/
theorem columns_are_seen_beside :
    let r := Rule.besideRecord
    let wider := r.put "c" .null
    let other := r.put "a" .null
    ∃ p red, Rule.beside.predicate = .ok p ∧ Rule.beside.redaction = .ok red ∧
      p.subject.columns = ["a", "b"] ∧ r.AgreeOn p.subject.columns wider ∧
      p.subject.eval r = p.subject.eval wider ∧ Rule.beside.judge r = Rule.beside.judge wider ∧
      (red.target ∈ r.columns ↔ red.target ∈ other.columns) ∧
      r.AgreeOn red.expr.columns other ∧ Rule.beside.redact r = Rule.beside.redact other ∧
      (∀ c ∈ p.subject.columns, c ∈ r.columns) ∧
      p.subject.eval r ≠ .error (.missingColumn "b") ∧
      p.subject.eval (Record.empty.put "a" (.string "x")) = .error (.missingColumn "b") ∧
      "b" ∈ p.subject.columns := by
  have hpredicate : Rule.beside.predicate.toOption.map (fun p => (p.subject.columns,
      (tryCatch ((p.subject.eval (Record.empty.put "a" (.string "x"))).map fun _ => none)
        fun e => .ok (some e)).toOption)) =
          some (["a", "b"], some (some (.missingColumn "b"))) := by decide +kernel
  have hredaction : Rule.beside.redaction.toOption.map (fun red => (red.target, red.expr.columns)) =
      some ("a", ["b"]) := by decide +kernel
  obtain ⟨p, hp, hseen⟩ := exists_ok_of_toOption_map hpredicate
  obtain ⟨red, hred, hwritten⟩ := exists_ok_of_toOption_map hredaction
  obtain ⟨hcolumns, hmissing⟩ := Prod.mk.inj hseen
  obtain ⟨htarget, hsees⟩ := Prod.mk.inj hwritten
  have hagree : Rule.besideRecord.AgreeOn p.subject.columns (Rule.besideRecord.put "c" .null) := by
    intro c hc
    rw [hcolumns] at hc
    rw [Record.get?_put, if_neg]
    rintro rfl
    exact absurd hc (by decide)
  have hother : Rule.besideRecord.AgreeOn red.expr.columns (Rule.besideRecord.put "a" .null) := by
    intro c hc
    rw [hsees] at hc
    rw [Record.get?_put, if_neg]
    rintro rfl
    exact absurd hc (by decide)
  have hwrites : red.target ∈ Rule.besideRecord.columns ↔
      red.target ∈ (Rule.besideRecord.put "a" .null).columns := by
    rw [htarget]
    decide
  have hthere : ∀ c ∈ p.subject.columns, c ∈ Rule.besideRecord.columns := by
    rw [hcolumns]
    decide
  have herror : p.subject.eval (Record.empty.put "a" (.string "x")) =
      .error (.missingColumn "b") := by
    cases he : p.subject.eval (Record.empty.put "a" (.string "x")) with
    | error e =>
      rw [he] at hmissing
      exact congrArg Except.error (Option.some.inj (Option.some.inj hmissing))
    | ok v =>
      rw [he] at hmissing
      cases hmissing
  obtain ⟨-, heval, hmisses, hnever⟩ := columns_are_seen.1 p.subject
  refine ⟨p, red, hp, hred, hcolumns, hagree, heval _ _ hagree, ?_, hwrites, hother, ?_, hthere,
    hnever _ hthere "b", herror, (hmisses _ _ herror).1⟩
  · apply columns_are_seen.2.1
    intro q hq
    obtain rfl := Except.ok.inj (hp.symm.trans hq)
    exact hagree
  · apply columns_are_seen.2.2
    intro other hread
    obtain rfl := Except.ok.inj (hred.symm.trans hread)
    exact ⟨hwrites, hother⟩

end Quarantine
