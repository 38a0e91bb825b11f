import Quarantine.Processing
import Quarantine.Proofs.Expr.Columns
import Quarantine.Proofs.Fallible
import Quarantine.Proofs.Rule.RuleSet
import Quarantine.Proofs.Rule.Standard
import Quarantine.Verdict

/-!
# What logs say about records

The message of an error shows a value where it was read as a whole number.  If such values are
written in the expression, and none is taken from the record, two records with the same columns
give the same errors, and what a log says about one of them is what it says about the other, as
far as the same rules fail.

    e.discreet                no whole number of e is taken from a record
    SameFailure z x y         x and y fail for the same reason, or only one fails and the other is z
    judgeLog_eq               the log of the verdicts on two records with the same columns
    judgeLog_of_not_integer   the log of a rule that is not discreet
    processLog_eq             the log of the redaction of two such records
    discreet_of_compile       the rules of the standard table are discreet
-/

namespace Quarantine

open Quarantine.Json

/-! ## Failures -/

/-- That two computations do not differ in the reason for which they fail.  Where only one of
them fails, the other gives nothing. -/
inductive SameFailure {ε α : Type} (nothing : α) : Except ε α → Except ε α → Prop
  | ok (a b : α) : SameFailure nothing (.ok a) (.ok b)
  | error (e : ε) : SameFailure nothing (.error e) (.error e)
  | left (e : ε) : SameFailure nothing (.ok nothing) (.error e)
  | right (e : ε) : SameFailure nothing (.error e) (.ok nothing)

namespace SameFailure

variable {ε α β : Type} {z : α} {w : β} {x y : Except ε α}

theorem of_nothing_left (y : Except ε α) : SameFailure z (.ok z) y := by
  cases y with
  | ok b => exact .ok z b
  | error e => exact .left e

theorem of_nothing_right (x : Except ε α) : SameFailure z x (.ok z) := by
  cases x with
  | ok a => exact .ok a z
  | error e => exact .right e

/-- Steps that give nothing for nothing. -/
theorem bind {f g : α → Except ε β} (h : SameFailure z x y) (hf : f z = .ok w) (hg : g z = .ok w)
    (hfg : ∀ a b, SameFailure w (f a) (g b)) : SameFailure w (x >>= f) (y >>= g) := by
  cases h with
  | ok a b => exact hfg a b
  | error e => exact .error e
  | left e =>
    show SameFailure w (f z) (.error e)
    exact hf ▸ .left e
  | right e =>
    show SameFailure w (.error e) (g z)
    exact hg ▸ .right e

/-- A step that is the same in both. -/
theorem bind_same (x : Except ε α) {f g : α → Except ε β}
    (hfg : ∀ a, SameFailure w (f a) (g a)) : SameFailure w (x >>= f) (x >>= g) := by
  cases x with
  | ok a => exact hfg a
  | error e => exact .error e

end SameFailure

namespace Expr

/-! ## Discreet expressions -/

mutual

/-- Whether no whole number is taken from a record. -/
def discreet : Expr → Bool
  | column _ | literal _ => true
  | castText e | upper e | lower e => e.discreet
  | concat args => allDiscreet args
  | substrFrom s p => s.discreet && p.columns.isEmpty
  | substr s p n => s.discreet && p.columns.isEmpty && n.columns.isEmpty
  | regexpReplace s _ t => s.discreet && t.discreet
  | regexpExtract s _ g => s.discreet && g.columns.isEmpty
  | sha2 s b => s.discreet && b.columns.isEmpty

def allDiscreet : List Expr → Bool
  | [] => true
  | e :: rest => e.discreet && allDiscreet rest

end

section

variable {r r' : Record}

theorem eval_eq_of_isEmpty {e : Expr} (h : e.columns.isEmpty = true) : e.eval r = e.eval r' := by
  refine eval_congr e fun c hc => ?_
  rw [List.isEmpty_iff.1 h] at hc
  exact absurd hc List.not_mem_nil

/-- Null stays null, whatever comes after it. -/
theorem sameFailure_orNull {α : Type} (a b : Option α) {f g : α → Except ExprError Value}
    (hfg : ∀ s t, SameFailure .null (f s) (g t)) :
    SameFailure .null (orNull a f) (orNull b g) := by
  cases a with
  | none => exact .of_nothing_left _
  | some s =>
    cases b with
    | none => exact .of_nothing_right _
    | some t => exact hfg s t

theorem sameFailure_orNull_same {α : Type} (a : Option α) {f g : α → Except ExprError Value}
    (hfg : ∀ s, SameFailure .null (f s) (g s)) : SameFailure .null (orNull a f) (orNull a g) := by
  cases a with
  | none => exact .ok _ _
  | some s => exact hfg s

/-- A whole number that is written in the expression. -/
theorem sameFailure_integer {e : Expr} (h : e.columns.isEmpty = true)
    {f g : Int → Except ExprError Value} (hfg : ∀ i, SameFailure .null (f i) (g i)) :
    SameFailure .null (do orNull (← integerOf (← e.eval r)) f)
      (do orNull (← integerOf (← e.eval r')) g) := by
  rw [eval_eq_of_isEmpty h (r := r)]
  exact .bind_same _ fun v => .bind_same _ fun i => sameFailure_orNull_same i hfg

/-- The error of a digest is that of its length. -/
theorem sameFailure_digestText (s t : String) (bits : Int) :
    SameFailure Value.null (do return .string (← digestText s bits))
      (do return .string (← digestText t bits)) := by
  unfold digestText
  dsimp only
  repeat' split
  all_goals first
    | exact .ok _ _
    | exact .error _

mutual

/-- Records with the same columns give the same errors, or null in place of one. -/
theorem sameFailure_eval (e : Expr) (he : e.discreet = true)
    (h : ∀ c, (r.get? c).isSome = (r'.get? c).isSome) :
    SameFailure .null (e.eval r) (e.eval r') := by
  cases e with
  | column name =>
    have hname := h name
    rw [eval, eval]
    generalize r.get? name = a at hname ⊢
    generalize r'.get? name = b at hname ⊢
    cases a with
    | none =>
      cases b with
      | none => exact .error _
      | some w => cases hname
    | some v =>
      cases b with
      | none => cases hname
      | some w => exact .ok v w
  | literal v =>
    rw [eval, eval]
    exact .ok v v
  | castText e =>
    rw [eval, eval]
    exact (sameFailure_eval e he h).bind rfl rfl fun _ _ => .ok _ _
  | upper e | lower e =>
    rw [eval, eval]
    refine (sameFailure_eval e he h).bind rfl rfl fun a b => ?_
    exact sameFailure_orNull _ _ fun _ _ => .ok _ _
  | concat args =>
    rw [eval, eval]
    exact (sameFailure_concatText args he h).bind rfl rfl fun _ _ => .ok _ _
  | substrFrom s p =>
    obtain ⟨hs, hp⟩ := Bool.and_eq_true_iff.1 he
    rw [eval, eval]
    refine (sameFailure_eval s hs h).bind rfl rfl fun a b => sameFailure_orNull _ _ fun t u => ?_
    exact sameFailure_integer hp fun i => .ok _ _
  | substr s p n =>
    obtain ⟨hsp, hn⟩ := Bool.and_eq_true_iff.1 he
    obtain ⟨hs, hp⟩ := Bool.and_eq_true_iff.1 hsp
    rw [eval, eval]
    refine (sameFailure_eval s hs h).bind rfl rfl fun a b => sameFailure_orNull _ _ fun t u => ?_
    exact sameFailure_integer hp fun i => sameFailure_integer hn fun j => .ok _ _
  | regexpReplace s pattern t =>
    obtain ⟨hs, ht⟩ := Bool.and_eq_true_iff.1 he
    rw [eval, eval]
    refine (sameFailure_eval s hs h).bind rfl rfl fun a b => sameFailure_orNull _ _ fun _ _ => ?_
    refine (sameFailure_eval t ht h).bind rfl rfl fun a b => ?_
    exact sameFailure_orNull _ _ fun _ _ => .ok _ _
  | regexpExtract s pattern g =>
    obtain ⟨hs, hg⟩ := Bool.and_eq_true_iff.1 he
    rw [eval, eval]
    refine (sameFailure_eval s hs h).bind rfl rfl fun a b => sameFailure_orNull _ _ fun t u => ?_
    refine sameFailure_integer hg fun i => ?_
    unfold extractText
    split
    · exact .error _
    · exact .ok _ _
  | sha2 s b =>
    obtain ⟨hs, hb⟩ := Bool.and_eq_true_iff.1 he
    rw [eval, eval]
    refine (sameFailure_eval s hs h).bind rfl rfl fun a b => sameFailure_orNull _ _ fun t u => ?_
    exact sameFailure_integer hb fun i => sameFailure_digestText t u i

theorem sameFailure_concatText (es : List Expr) (hes : allDiscreet es = true)
    (h : ∀ c, (r.get? c).isSome = (r'.get? c).isSome) :
    SameFailure none (concatText r es) (concatText r' es) := by
  cases es with
  | nil =>
    rw [concatText, concatText]
    exact .ok _ _
  | cons e rest =>
    obtain ⟨he, hrest⟩ := Bool.and_eq_true_iff.1 hes
    rw [concatText, concatText]
    refine (sameFailure_eval e he h).bind rfl rfl fun a b => ?_
    cases a.text? with
    | none => exact .of_nothing_left _
    | some s =>
      cases b.text? with
      | none => exact .of_nothing_right _
      | some t => exact (sameFailure_concatText rest hrest h).bind rfl rfl fun _ _ => .ok _ _

end

end

end Expr

/-! ## Rules -/

section

variable {r r' : Record}

/-- That two records have values for the same columns. -/
def SameColumns (r r' : Record) : Prop := ∀ c, (r.get? c).isSome = (r'.get? c).isSome

theorem isSome_get? (r : Record) (c : String) : (r.get? c).isSome = r.contains c := by
  unfold Record.get? Record.contains Record.columns
  induction r.fields with
  | nil => rfl
  | cons f rest ih =>
    obtain ⟨n, v⟩ := f
    rw [Fields.get?_cons, Fields.names, List.map_cons, List.contains_cons, ← Fields.names, ← ih]
    split
    · next h => simp [h]
    · next h => simp [h]

theorem SameColumns.put (h : SameColumns r r') (target : String) (v w : Value) :
    SameColumns (r.put target v) (r'.put target w) := by
  intro c
  rw [Record.get?_put, Record.get?_put]
  split
  · rfl
  · exact h c

theorem Predicate.sameFailure (p : Predicate) (hp : p.subject.discreet = true)
    (h : SameColumns r r') : SameFailure true (p.holds r) (p.holds r') := by
  unfold holds
  refine (Expr.sameFailure_eval p.subject hp h).bind rfl rfl fun a b => ?_
  cases a.text? with
  | none => exact .of_nothing_left _
  | some s =>
    cases b.text? with
    | none => exact .of_nothing_right _
    | some t => exact .ok _ _

theorem Redaction.sameFailure (red : Redaction) (hred : red.expr.discreet = true)
    (h : SameColumns r r') : SameFailure .null (red.evaluate r) (red.evaluate r') := by
  unfold evaluate
  rw [← isSome_get?, ← isSome_get?, h red.target]
  split
  · exact Expr.sameFailure_eval red.expr hred h
  · exact .error _

/-- That the expressions of a rule take no whole number from a record. -/
structure Rule.Discreet (rule : Rule) : Prop where
  predicate : ∀ p, rule.predicate = .ok p → p.subject.discreet = true
  redaction : ∀ red, rule.redaction = .ok red → red.expr.discreet = true

/-- That two verdicts are of one kind. -/
inductive Verdict.SameKind : Verdict → Verdict → Prop
  | pass : SameKind .pass .pass
  | fail : SameKind .fail .fail
  | error (e e' : Failure) : SameKind (.error e) (.error e')

/-- A rule that cannot be asked about two records is so for one reason. -/
theorem Rule.Discreet.failure_eq {rule : Rule} (hrule : rule.Discreet) (h : SameColumns r r')
    {e e' : Failure} (hr : (rule.judge r).verdict = .error e)
    (hr' : (rule.judge r').verdict = .error e') : e = e' := by
  have herror {x : Except Failure Bool} {e : Failure} (hx : Verdict.ofCheck x = .error e) :
      x = .error e := by
    cases x with
    | ok b => cases b <;> cases hx
    | error f => rw [Verdict.error.inj hx]
  have hcheck := herror hr
  have hcheck' := herror hr'
  unfold Rule.check at hcheck hcheck'
  cases hp : rule.predicate with
  | error f =>
    rw [hp] at hcheck hcheck'
    exact Except.error.inj (hcheck.symm.trans hcheck')
  | ok p =>
    rw [hp] at hcheck hcheck'
    have hsame := p.sameFailure (hrule.predicate p hp) h
    dsimp only at hcheck hcheck'
    generalize p.holds r = x at hcheck hsame
    generalize p.holds r' = y at hcheck' hsame
    cases hsame with
    | ok => cases hcheck
    | error f => exact Except.error.inj (hcheck.symm.trans hcheck')
    | left => cases hcheck
    | right => cases hcheck'

/-- The log of a rule tells two records apart only by the verdict, and by the value, as it may be
logged, that the rule failed on. -/
theorem Rule.judgeLog_eq {rule : Rule} (hrule : rule.Discreet) (h : SameColumns r r')
    (hkind : (rule.judge r).verdict.SameKind (rule.judge r').verdict)
    (hvalue : (rule.judge r).verdict = .fail → ∀ v v', r.get? rule.column = some v →
      r'.get? rule.column = some v' → Log.loggable v.render = Log.loggable v'.render) :
    rule.judgeLog r = rule.judgeLog r' := by
  have hfailure := @Rule.Discreet.failure_eq r r' rule hrule h
  unfold Rule.judgeLog
  generalize (rule.judge r).verdict = x at hkind hvalue hfailure ⊢
  generalize (rule.judge r').verdict = y at hkind hfailure ⊢
  cases hkind with
  | pass => rfl
  | error e e' => rw [hfailure rfl rfl]
  | fail =>
    have hcolumn := h rule.column
    have hvalue := hvalue rfl
    dsimp only
    generalize r.get? rule.column = a at hcolumn hvalue ⊢
    generalize r'.get? rule.column = b at hcolumn hvalue ⊢
    cases a with
    | none =>
      cases b with
      | none => rfl
      | some w => cases hcolumn
    | some v =>
      cases b with
      | none => cases hcolumn
      | some w =>
        dsimp only
        rw [hvalue v w rfl rfl]

/-- A rule that takes a whole number from a column logs the text that is none. -/
theorem Rule.judgeLog_of_not_integer {rule : Rule} {p : Predicate} {subject : Expr}
    {column text value : String} {v : Value} (hp : rule.predicate = .ok p)
    (hsubject : p.subject = .substrFrom subject (.column column)) (hv : subject.eval r = .ok v)
    (htext : v.text? = some text) (hvalue : r.get? column = some (.string value))
    (hinteger : Expr.parseInt? (Text.trim value) = none) : rule.judgeLog r =
      [Log.debug ("Failed to evaluate rule '" ++ rule.name ++
        "': type mismatch: expected an integer, got '" ++ value ++ "'")] := by
  have hinteger : Expr.integerOf (.string value) =
      .error (.typeMismatch (.notInteger ("'" ++ value ++ "'"))) := by
    unfold Expr.integerOf
    dsimp only
    rw [hinteger]
  have heval : p.subject.eval r = .error (.typeMismatch (.notInteger ("'" ++ value ++ "'"))) := by
    rw [hsubject, Expr.eval, hv]
    dsimp only [bind, Except.bind]
    rw [htext]
    dsimp only [Expr.orNull]
    rw [Expr.eval, hvalue]
    dsimp only
    rw [hinteger]
  have hholds : p.holds r = .error (.typeMismatch (.notInteger ("'" ++ value ++ "'"))) := by
    unfold Predicate.holds
    rw [heval]
    rfl
  unfold Rule.judgeLog Rule.judge Rule.check
  rw [hp]
  dsimp only
  rw [hholds]
  dsimp only [Verdict.ofCheck, Failure.message, ExprError.message, TypeFault.message]
  simp only [String.append_assoc]
  rfl

theorem RuleSet.judgeLog_eq {s : RuleSet} (hs : ∀ rule ∈ s.rules, rule.Discreet)
    (h : SameColumns r r')
    (hkind : ∀ rule ∈ s.rules, (rule.judge r).verdict.SameKind (rule.judge r').verdict)
    (hvalue : ∀ rule ∈ s.rules, (rule.judge r).verdict = .fail → ∀ v v',
      r.get? rule.column = some v → r'.get? rule.column = some v' →
      Log.loggable v.render = Log.loggable v'.render) :
    s.judgeLog r = s.judgeLog r' := by
  unfold RuleSet.judgeLog
  rw [List.flatMap_def, List.flatMap_def]
  refine congrArg List.flatten (List.map_congr_left fun rule hrule => ?_)
  exact Rule.judgeLog_eq (hs rule hrule) h (hkind rule hrule) (hvalue rule hrule)

/-! ## Redactions -/

/-- A redaction that fails for two records fails for one reason. -/
theorem Rule.Discreet.redact_error_eq {rule : Rule} (hrule : rule.Discreet) (h : SameColumns r r')
    {e e' : Failure} (hr : rule.redact r = .error e) (hr' : rule.redact r' = .error e') :
    e = e' := by
  unfold Rule.redact at hr hr'
  cases hred : rule.redaction with
  | error f =>
    rw [hred] at hr hr'
    exact Except.error.inj (hr.symm.trans hr')
  | ok red =>
    rw [hred] at hr hr'
    have hsame := red.sameFailure (hrule.redaction red hred) h
    dsimp only at hr hr'
    generalize red.evaluate r = x at hr hsame
    generalize red.evaluate r' = y at hr' hsame
    cases hsame with
    | ok => cases hr
    | error f => exact Except.error.inj (hr.symm.trans hr')
    | left => cases hr
    | right => cases hr'

theorem Rule.target_of_redact {rule : Rule} {target : String} {v : Value}
    (h : rule.redact r = .ok (target, v)) :
    ∃ red, rule.redaction = .ok red ∧ red.target = target := by
  unfold Rule.redact at h
  cases hred : rule.redaction with
  | error f =>
    rw [hred] at h
    cases h
  | ok red =>
    rw [hred] at h
    dsimp only at h
    split at h
    · cases h
    · exact ⟨red, rfl, (Prod.mk.inj (Except.ok.inj h)).1⟩

theorem mem_names_of_redactWith {rules : List Rule} {e : RedactionFailure}
    (h : redactWith r rules = .error e) : e.rule ∈ rules.map Rule.name := by
  induction rules generalizing r with
  | nil => cases h
  | cons rule rest ih =>
    rw [redactWith] at h
    split at h
    · exact List.mem_cons_of_mem _ (ih h)
    · exact Except.error.inj h ▸ List.mem_cons_self

/-- Redactions that stop at the same rule stop there for the same reason. -/
theorem redactWith_error_eq {rules : List Rule} (hrules : ∀ rule ∈ rules, rule.Discreet)
    (hnames : (rules.map Rule.name).Nodup) (h : SameColumns r r') {e e' : RedactionFailure}
    (hr : redactWith r rules = .error e) (hr' : redactWith r' rules = .error e')
    (hrule : e.rule = e'.rule) : e = e' := by
  induction rules generalizing r r' with
  | nil => cases hr
  | cons rule rest ih =>
    obtain ⟨hname, hrest⟩ := List.nodup_cons.1 hnames
    have hdiscreet := hrules rule List.mem_cons_self
    rw [redactWith] at hr hr'
    cases hx : rule.redact r with
    | error f =>
      rw [hx] at hr
      cases hy : rule.redact r' with
      | error f' =>
        rw [hy] at hr'
        rw [← Except.error.inj hr, ← Except.error.inj hr', hdiscreet.redact_error_eq h hx hy]
      | ok result =>
        -- a rule after this one has another name
        rw [hy] at hr'
        have hmem := mem_names_of_redactWith hr'
        rw [← hrule, ← Except.error.inj hr] at hmem
        exact absurd hmem hname
    | ok result =>
      obtain ⟨target, v⟩ := result
      rw [hx] at hr
      cases hy : rule.redact r' with
      | error f' =>
        rw [hy] at hr'
        have hmem := mem_names_of_redactWith hr
        rw [hrule, ← Except.error.inj hr'] at hmem
        exact absurd hmem hname
      | ok result' =>
        obtain ⟨target', v'⟩ := result'
        rw [hy] at hr'
        obtain ⟨red, hred, rfl⟩ := Rule.target_of_redact hx
        obtain ⟨red', hred', rfl⟩ := Rule.target_of_redact hy
        obtain rfl := Except.ok.inj (hred.symm.trans hred')
        exact ih (fun rule hrule => hrules rule (List.mem_cons_of_mem _ hrule)) hrest
          (h.put _ v v') hr hr'

/-- The log of a redaction tells two records apart only by the rule that it stops at. -/
theorem Plan.processLog_eq {p : Plan} (hp : ∀ rule ∈ p.rules, rule.Discreet)
    (hnames : p.names.Nodup) {q q' : Quarantined} (h : SameColumns q.record q'.record)
    (hsame : Alike (fun e e' => e.rule = e'.rule) (fun _ _ => True) (p.redact q.record)
      (p.redact q'.record)) : p.processLog q = p.processLog q' := by
  have herror := @redactWith_error_eq q.record q'.record p.rules hp hnames h
  unfold Plan.processLog
  unfold Plan.redact at hsame ⊢
  generalize redactWith q.record p.rules = x at hsame herror ⊢
  generalize redactWith q'.record p.rules = y at hsame herror ⊢
  cases hsame with
  | ok => rfl
  | error hrule => rw [herror rfl rfl hrule]

end

/-! ## The standard table -/

theorem RuleTable.discreet_expand {t : Template} (ht : t ∈ standard.templates) (column : String) :
    (Rule.expand t column).Discreet where
  predicate := by
    intro q hq
    obtain ⟨p, hp, -⟩ := predicate_standard ht column
    obtain rfl := Except.ok.inj (hp.symm.trans hq)
    rfl
  redaction := by
    intro red hred
    rcases List.mem_cons.1 ht with rfl | ht
    · obtain rfl := Except.ok.inj ((redaction_lastThree rfl column).symm.trans hred)
      rfl
    · rcases redaction_tail ht column with h | ⟨p, put, h, -⟩
      · obtain rfl := Except.ok.inj (h.symm.trans hred)
        rfl
      · obtain rfl := Except.ok.inj (h.symm.trans hred)
        rfl

theorem RuleSet.discreet_of_compile {columns : List String} {rules : RuleSet}
    (h : compile .standard columns = .ok rules) {rule : Rule} (hrule : rule ∈ rules.rules) :
    rule.Discreet := by
  obtain ⟨c, -, t, ht, rfl⟩ := (mem_of_compile h).1 hrule
  exact RuleTable.discreet_expand ht c

end Quarantine
