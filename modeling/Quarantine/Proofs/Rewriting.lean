import Quarantine.Proofs.Processing

/-!
# Records as they are rewritten

A plan rewrites a record step by step, each redaction on what the ones before it left.  Either all
of its redactions can be done, and a column then has the value of the last one that writes it; or
the record stays as it was, and the first redaction that cannot be done is told.

    Rewrites r rules r'             rules turn r into r', each step one redaction
    redactWith r rules = .ok r'     ↔  Rewrites r rules r'
    redactWith r rules = .error f   ↔  rules = before ++ rule :: after, Rewrites r before s,
                                       and rule fails on s
    process q                       =  the rewritten record, or q's record and the failure
-/

namespace Quarantine

open Quarantine.Json

/-! ## Steps -/

/-- Why the redaction of a rule cannot be done on a record. -/
inductive Rule.FailsOn (rule : Rule) (r : Record) : ExprError → Prop
  | unread {e : ExprError} (h : rule.redaction = .error e) : FailsOn rule r e
  | noTarget {red : Redaction} (h : rule.redaction = .ok red) (hmissing : red.target ∉ r.columns) :
      FailsOn rule r (.missingColumn red.target)
  | noValue {red : Redaction} {e : ExprError} (h : rule.redaction = .ok red)
      (hmem : red.target ∈ r.columns) (hv : red.expr.eval r = .error e) : FailsOn rule r e

/-- That rules rewrite a record one after the other. -/
inductive Rewrites : Record → List Rule → Record → Prop
  | nil (r : Record) : Rewrites r [] r
  | cons {r r' : Record} {rule : Rule} {rules : List Rule} {red : Redaction} {v : Value}
      (h : rule.redaction = .ok red) (hmem : red.target ∈ r.columns)
      (hv : red.expr.eval r = .ok v) (hrest : Rewrites (r.put red.target v) rules r') :
      Rewrites r (rule :: rules) r'

section

variable {rule : Rule} {rules xs ys : List Rule} {r r' s : Record} {f : Failure}

theorem Record.contains_iff {c : String} : r.contains c = true ↔ c ∈ r.columns :=
  List.contains_iff_mem

/-- A redaction fails with the reason for which it cannot be done. -/
theorem Rule.redact_error_iff :
    rule.redact r = .error f ↔ ∃ e, rule.FailsOn r e ∧ f = .redaction rule.name e := by
  unfold redact Redaction.evaluate
  constructor
  · intro h
    cases hred : rule.redaction with
    | error e =>
      rw [hred] at h
      exact ⟨e, .unread hred, (Except.error.inj h).symm⟩
    | ok red =>
      rw [hred] at h
      dsimp only at h
      by_cases hmem : red.target ∈ r.columns
      · rw [if_pos (Record.contains_iff.2 hmem)] at h
        cases hv : red.expr.eval r with
        | error e =>
          rw [hv] at h
          exact ⟨e, .noValue hred hmem hv, (Except.error.inj h).symm⟩
        | ok v =>
          rw [hv] at h
          cases h
      · rw [if_neg (mt Record.contains_iff.1 hmem)] at h
        exact ⟨_, .noTarget hred hmem, (Except.error.inj h).symm⟩
  · rintro ⟨e, hfails, rfl⟩
    cases hfails with
    | unread h => rw [h]
    | noTarget h hmissing =>
      rw [h]
      dsimp only
      rw [if_neg (mt Record.contains_iff.1 hmissing)]
    | noValue h hmem hv =>
      rw [h]
      dsimp only
      rw [if_pos (Record.contains_iff.2 hmem), hv]

/-! ## Runs -/

/-- Redacting with rules is rewriting step by step. -/
theorem redactWith_ok_iff : redactWith r rules = .ok r' ↔ Rewrites r rules r' := by
  constructor
  · intro h
    induction rules generalizing r with
    | nil =>
      obtain rfl := Except.ok.inj h
      exact .nil r
    | cons rule rules ih =>
      obtain ⟨target, v, hredact, hrest⟩ := redactWith_cons_ok_iff.1 h
      obtain ⟨red, hred, rfl, hmem, hv⟩ := Rule.redact_ok_iff.1 hredact
      exact .cons hred hmem hv (ih hrest)
  · intro h
    induction h with
    | nil r => rfl
    | cons hred hmem hv _ ih =>
      apply redactWith_cons_ok_iff.2
      exact ⟨_, _, Rule.redact_ok_iff.2 ⟨_, hred, rfl, hmem, hv⟩, ih⟩

/-- Redacting fails at the first rule that fails on what the rules before it left. -/
theorem redactWith_error_iff {failure : RedactionFailure} :
    redactWith r rules = .error failure ↔ ∃ before rule after s e, rules = before ++ rule :: after ∧
      Rewrites r before s ∧ rule.FailsOn s e ∧ failure = ⟨rule.name, .redaction rule.name e⟩ := by
  constructor
  · intro h
    induction rules generalizing r with
    | nil => cases h
    | cons rule rules ih =>
      rw [redactWith] at h
      cases hredact : rule.redact r with
      | error f =>
        rw [hredact] at h
        obtain ⟨e, hfails, rfl⟩ := Rule.redact_error_iff.1 hredact
        exact ⟨[], rule, rules, r, e, rfl, .nil r, hfails, (Except.error.inj h).symm⟩
      | ok x =>
        rw [hredact] at h
        obtain ⟨red, hred, htarget, hmem, hv⟩ := Rule.redact_ok_iff.1 hredact
        obtain ⟨before, rule', after, s, e, rfl, hs, hfails, hfailure⟩ := ih h
        rw [← htarget] at hmem hs
        exact ⟨rule :: before, rule', after, s, e, rfl, .cons hred hmem hv hs, hfails, hfailure⟩
  · rintro ⟨before, rule, after, s, e, rfl, hs, hfails, rfl⟩
    induction hs with
    | nil r =>
      rw [List.nil_append, redactWith, Rule.redact_error_iff.2 ⟨e, hfails, rfl⟩]
    | cons hred hmem hv _ ih =>
      rw [List.cons_append, redactWith, Rule.redact_ok_iff.2 ⟨_, hred, rfl, hmem, hv⟩]
      exact ih hfails

namespace Rewrites

theorem columns_eq (h : Rewrites r rules r') : r'.columns = r.columns :=
  columns_redactWith (redactWith_ok_iff.2 h)

/-- What no redaction writes stays. -/
theorem get?_of_ne (h : Rewrites r rules r') {c : String}
    (hne : ∀ rule ∈ rules, ∀ red, rule.redaction = .ok red → red.target ≠ c) :
    r'.get? c = r.get? c :=
  get?_redactWith_of_ne (redactWith_ok_iff.2 h) hne

/-- A run can be cut anywhere. -/
theorem exists_of_append (h : Rewrites r (xs ++ ys) r') :
    ∃ s, Rewrites r xs s ∧ Rewrites s ys r' := by
  induction xs generalizing r with
  | nil => exact ⟨r, .nil r, h⟩
  | cons rule xs ih =>
    cases h with
    | cons hred hmem hv hrest =>
      obtain ⟨s, hs, hys⟩ := ih hrest
      exact ⟨s, .cons hred hmem hv hs, hys⟩

/-- The last redaction that writes a column gives it the value that it has at the end. -/
theorem exists_written {before after : List Rule} (h : Rewrites r (before ++ rule :: after) r')
    {red : Redaction} (hred : rule.redaction = .ok red)
    (hlast : ∀ later ∈ after, ∀ red', later.redaction = .ok red' → red'.target ≠ red.target) :
    ∃ s v, Rewrites r before s ∧ red.expr.eval s = .ok v ∧ r'.get? red.target = some v := by
  obtain ⟨s, hs, hrest⟩ := h.exists_of_append
  cases hrest with
  | cons hred' hmem hv hafter =>
    obtain rfl := Except.ok.inj (hred.symm.trans hred')
    refine ⟨s, _, hs, hv, ?_⟩
    rw [hafter.get?_of_ne hlast, Record.get?_put, if_pos rfl]

end Rewrites

end

/-! ## Processed records -/

namespace Plan

/-- What a record has become where all redactions of a plan could be done. -/
structure Rewritten (p : Plan) (r : Record) (names : List String) (r' : Record) : Prop where
  names_eq : names = p.names
  rewrites : Rewrites r p.rules r'
  columns_eq : r'.columns = r.columns
  kept : ∀ c, (∀ rule ∈ p.rules, ∀ red, rule.redaction = .ok red → red.target ≠ c) →
    r'.get? c = r.get? c
  written : ∀ before rule after red, p.rules = before ++ rule :: after →
    rule.redaction = .ok red →
    (∀ later ∈ after, ∀ red', later.redaction = .ok red' → red'.target ≠ red.target) →
    ∃ s v, Rewrites r before s ∧ red.expr.eval s = .ok v ∧ r'.get? red.target = some v

/-- What a record is where some redaction of a plan could not be done, with the name of the first
such rule and the reason. -/
structure Stopped (p : Plan) (r : Record) (name reason : String) (r' : Record) : Prop where
  unchanged : r' = r
  first : ∃ before rule after s e, p.rules = before ++ rule :: after ∧ Rewrites r before s ∧
    rule.FailsOn s e ∧ name = rule.name ∧ reason = (Failure.redaction rule.name e).message

/-- A plan rewrites a record as a whole or leaves it as it is, and says which. -/
theorem process_all_or_nothing (p : Plan) (q : Quarantined) :
    (p.process q).failedRules = q.failedRules ∧
    match (p.process q).redaction with
    | .applied names => p.Rewritten q.record names (p.process q).record
    | .failed name reason => p.Stopped q.record name reason (p.process q).record := by
  refine ⟨p.failedRules_process q, ?_⟩
  unfold process
  cases h : p.redact q.record with
  | ok r' =>
    have hrun : Rewrites q.record p.rules r' := redactWith_ok_iff.1 h
    constructor
    case names_eq => rfl
    case rewrites => exact hrun
    case columns_eq => exact hrun.columns_eq
    case kept => exact fun c hne => hrun.get?_of_ne hne
    case written =>
      intro before rule after red hrules hred hlast
      rw [hrules] at hrun
      exact hrun.exists_written hred hlast
  | error failure =>
    obtain ⟨before, rule, after, s, e, hrules, hs, hfails, rfl⟩ := redactWith_error_iff.1 h
    exact ⟨rfl, before, rule, after, s, e, hrules, hs, hfails, rfl, rfl⟩

end Plan

end Quarantine
