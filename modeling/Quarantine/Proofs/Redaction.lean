import Quarantine.Proofs.Expr.Accepted
import Quarantine.Proofs.Rule.RuleSet
import Quarantine.Proofs.Storage.Records

/-!
# What redactions put into records

The value of an expression is one that the record has, one that is written in the expression, or
a text, or null.  None of them nests deeper than the record, so a record that can be read back
from a row can be read back after its redaction.
-/

namespace Quarantine

open Quarantine.Json

/-! ## Values of expressions -/

/-- That a value can stand in a record that is to be read back. -/
def Json.Value.Storable (v : Value) : Prop := v.fits (maxDepth - 2) = true ∧ v.merged = v

theorem Record.Storable.get? {r : Record} (h : r.Storable) {name : String} {v : Value}
    (hv : r.get? name = some v) : v.Storable := by
  have hmem (fs : Fields) (hg : Fields.get? fs name = some v) : (name, v) ∈ fs := by
    induction fs with
    | nil => cases hg
    | cons f rest ih =>
      rw [Fields.get?_cons] at hg
      split at hg
      · next hname =>
        rw [hname, ← Option.some.inj hg]
        exact List.mem_cons_self
      · exact List.mem_cons_of_mem _ (ih hg)
  exact Record.storable_iff.1 h (name, v) (hmem r.fields hv)

theorem Record.Storable.put {r : Record} (h : r.Storable) (column : String) {v : Value}
    (hv : v.Storable) : (r.put column v).Storable := by
  refine Record.storable_iff.2 fun f hf => ?_
  rcases Fields.mem_put hf with hf | rfl
  · exact Record.storable_iff.1 h f hf
  · exact hv

namespace Expr

/-- A value that is no more than a text. -/
def Flat (v : Value) : Prop := v = .null ∨ ∃ s, v = .string s

theorem Flat.storable {v : Value} (h : Flat v) : v.Storable := by
  rcases h with rfl | ⟨s, rfl⟩
  · exact ⟨rfl, rfl⟩
  · exact ⟨rfl, rfl⟩

theorem flat_of_orNull {α : Type} {a : Option α} {f : α → Except ExprError Value} {v : Value}
    (h : orNull a f = .ok v) (hf : ∀ x w, f x = .ok w → Flat w) : Flat v := by
  cases a with
  | none => exact .inl (Except.ok.inj h).symm
  | some x => exact hf x v h

theorem flat_string {s : String} {v : Value}
    (h : (pure (.string s) : Except ExprError Value) = .ok v) : Flat v :=
  .inr ⟨s, (Except.ok.inj h).symm⟩

section

variable {r : Record} {e : Expr} {v : Value}

/-- What goes on with the text of an argument. -/
theorem flat_of_text {f : String → Except ExprError Value}
    (h : (do orNull (← e.eval r).text? f) = .ok v) (hf : ∀ s w, f s = .ok w → Flat w) :
    Flat v := by
  obtain ⟨w, -, h⟩ := exists_of_bind_ok h
  exact flat_of_orNull h hf

/-- What goes on with the whole number of an argument. -/
theorem flat_of_integer {f : Int → Except ExprError Value}
    (h : (do orNull (← integerOf (← e.eval r)) f) = .ok v) (hf : ∀ i w, f i = .ok w → Flat w) :
    Flat v := by
  obtain ⟨w, -, h⟩ := exists_of_bind_ok h
  obtain ⟨i, -, h⟩ := exists_of_bind_ok h
  exact flat_of_orNull h hf

/-- An expression has a value of the record, one that is written in it, or a flat one. -/
theorem eval_cases (h : e.eval r = .ok v) :
    (∃ name, r.get? name = some v) ∨ e = .literal v ∨ Flat v := by
  cases e with
  | column name =>
    rw [eval] at h
    cases hg : r.get? name with
    | none =>
      rw [hg] at h
      cases h
    | some w =>
      rw [hg] at h
      obtain rfl := Except.ok.inj h
      exact .inl ⟨name, hg⟩
  | literal w =>
    rw [eval] at h
    exact .inr (.inl (congrArg _ (Except.ok.inj h)))
  | castText e =>
    rw [eval] at h
    obtain ⟨w, -, h⟩ := exists_of_bind_ok h
    refine .inr (.inr ?_)
    rw [← Except.ok.inj h]
    cases w.text? with
    | none => exact .inl rfl
    | some s => exact .inr ⟨s, rfl⟩
  | concat args =>
    rw [eval] at h
    obtain ⟨s, -, h⟩ := exists_of_bind_ok h
    refine .inr (.inr ?_)
    rw [← Except.ok.inj h]
    cases s with
    | none => exact .inl rfl
    | some s => exact .inr ⟨s, rfl⟩
  | substrFrom subject pos =>
    rw [eval] at h
    exact .inr (.inr (flat_of_text h fun _ _ h => flat_of_integer h fun _ _ h => flat_string h))
  | substr subject pos len =>
    rw [eval] at h
    exact .inr (.inr (flat_of_text h fun _ _ h => flat_of_integer h fun _ _ h =>
      flat_of_integer h fun _ _ h => flat_string h))
  | regexpReplace subject pattern replacement =>
    rw [eval] at h
    exact .inr (.inr (flat_of_text h fun _ _ h => flat_of_text h fun _ _ h => flat_string h))
  | regexpExtract subject pattern group =>
    rw [eval] at h
    refine .inr (.inr (flat_of_text h fun s v h => flat_of_integer h fun g v h => ?_))
    obtain ⟨text, -, h⟩ := exists_of_bind_ok h
    exact flat_string h
  | upper e | lower e =>
    rw [eval] at h
    exact .inr (.inr (flat_of_text h fun _ _ h => flat_string h))
  | sha2 subject bits =>
    rw [eval] at h
    refine .inr (.inr (flat_of_text h fun s v h => flat_of_integer h fun b v h => ?_))
    obtain ⟨text, -, h⟩ := exists_of_bind_ok h
    exact flat_string h

end

/-! ## Values that are written in expressions -/

theorem storable_integerValue (negative : Bool) (n : Natural63) :
    (integerValue negative n).Storable := by
  unfold integerValue
  split
  · exact ⟨rfl, rfl⟩
  · exact ⟨rfl, rfl⟩

theorem not_applies_literal {function : String} {args : List Expr} {v : Value} :
    ¬ Applies function args (.literal v) := by
  intro h
  cases h

/-- Only a text, a whole number or null is written out. -/
theorem storable_of_denotes {p : Phrase} {v : Value} (h : Denotes p (.literal v)) : v.Storable := by
  cases h with
  | text s => exact ⟨rfl, rfl⟩
  | number n => exact storable_integerValue _ _
  | negative n => exact storable_integerValue _ _
  | null k => exact ⟨rfl, rfl⟩
  | call _ applies => exact absurd applies not_applies_literal

/-- What the action of a rule can write out. -/
theorem storable_of_parseRedaction {text : String} {red : Redaction} {v : Value}
    (h : parseRedaction text = .ok red) (hv : red.expr = .literal v) : v.Storable := by
  obtain ⟨d, -, hd⟩ := parseRedaction_ok_iff.1 h
  exact storable_of_denotes (hv ▸ hd.value)

end Expr

/-! ## Rules and plans -/

/-- That a rule writes out only what can be read back. -/
def Rule.Storable (rule : Rule) : Prop :=
  ∀ red v, rule.redaction = .ok red → red.expr = .literal v → v.Storable

theorem Rule.storable_expand (t : Template) (column : String) : (Rule.expand t column).Storable :=
  fun _ _ hred hv => Expr.storable_of_parseRedaction hred hv

/-- A redaction keeps a record such that it can be read back. -/
theorem Rule.storable_redact {rule : Rule} (hrule : rule.Storable) {r : Record} (h : r.Storable)
    {target : String} {v : Value} (hredact : rule.redact r = .ok (target, v)) : v.Storable := by
  unfold redact at hredact
  split at hredact
  · cases hredact
  · next red hred =>
    split at hredact
    · cases hredact
    · next w hw =>
      obtain ⟨-, rfl⟩ := Prod.mk.inj (Except.ok.inj hredact)
      unfold Redaction.evaluate at hw
      split at hw
      · rcases Expr.eval_cases hw with ⟨name, hname⟩ | hliteral | hflat
        · exact h.get? hname
        · exact hrule red w hred hliteral
        · exact hflat.storable
      · cases hw

theorem storable_redactWith {rules : List Rule} (hrules : ∀ rule ∈ rules, rule.Storable)
    {r r' : Record} (h : r.Storable) (hredact : redactWith r rules = .ok r') : r'.Storable := by
  induction rules generalizing r with
  | nil => exact Except.ok.inj hredact ▸ h
  | cons rule rest ih =>
    unfold redactWith at hredact
    split at hredact
    · next target v hv =>
      exact ih (fun rule hr => hrules rule (List.mem_cons_of_mem _ hr))
        (h.put target (Rule.storable_redact (hrules rule List.mem_cons_self) h hv)) hredact
    · cases hredact

theorem RuleSet.storable_of_compile {table : RuleTable} {columns : List String} {rules : RuleSet}
    (h : compile table columns = .ok rules) : ∀ rule ∈ rules.rules, rule.Storable := by
  intro rule hm
  obtain ⟨column, -, t, -, rfl⟩ := (mem_of_compile h).1 hm
  exact Rule.storable_expand t column

/-- The processed form of a quarantined record can be read back if the record can. -/
theorem Plan.storable_process {plan : Plan} (hrules : ∀ rule ∈ plan.rules, rule.Storable)
    {q : Quarantined} (h : q.record.Storable) : (plan.process q).record.Storable := by
  unfold process
  split
  · next r hr => exact storable_redactWith hrules h hr
  · exact h

end Quarantine
