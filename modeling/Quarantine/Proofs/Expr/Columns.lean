import Quarantine.Expr.Eval

/-!
# What an expression looks at

An expression looks at the columns that it lists and at nothing else of a record.

    mem_columnsAfter   the columns already met, and those of the expression
    nodup_columnsAfter no column is listed twice
    eval_congr         records that agree on the columns of e give e the same value
    misses_eval        only a listed column that the record lacks is missed
-/

namespace Quarantine.Expr

open Quarantine.Json

variable {c name : String} {names : List String} {r r' : Record}

/-! ## Columns -/

theorem mem_addName : c ∈ addName names name ↔ c ∈ names ∨ c = name := by
  unfold addName
  split
  · next h =>
    have hname : name ∈ names := by simpa using h
    constructor
    · exact .inl
    · rintro (hc | rfl)
      · exact hc
      · exact hname
  · rw [List.mem_append, List.mem_singleton]

mutual

theorem mem_columnsAfter (e : Expr) (seen : List String) :
    c ∈ e.columnsAfter seen ↔ c ∈ seen ∨ c ∈ e.columns := by
  cases e with
  | column name =>
    have hcolumns : c ∈ addName [] name ↔ c ∈ [] ∨ c = name := mem_addName
    rw [columnsAfter, mem_addName, columns, columnsAfter, hcolumns, or_iff_right List.not_mem_nil]
  | literal v =>
    rw [columnsAfter]
    exact (or_iff_left List.not_mem_nil).symm
  | castText e => exact mem_columnsAfter e seen
  | upper e => exact mem_columnsAfter e seen
  | lower e => exact mem_columnsAfter e seen
  | concat args => exact mem_columnsOfAll args seen
  | substrFrom s p =>
    have hcolumns : c ∈ (substrFrom s p).columns ↔ c ∈ s.columns ∨ c ∈ p.columns :=
      mem_columnsAfter p _
    rw [columnsAfter, mem_columnsAfter p, mem_columnsAfter s, hcolumns, or_assoc]
  | substr s p n =>
    have hcolumns : c ∈ (substr s p n).columns ↔ c ∈ p.columnsAfter s.columns ∨ c ∈ n.columns :=
      mem_columnsAfter n _
    rw [columnsAfter, mem_columnsAfter n, mem_columnsAfter p, mem_columnsAfter s, hcolumns,
      mem_columnsAfter p, or_assoc, or_assoc, or_assoc]
  | regexpReplace s pattern t =>
    have hcolumns : c ∈ (regexpReplace s pattern t).columns ↔ c ∈ s.columns ∨ c ∈ t.columns :=
      mem_columnsAfter t _
    rw [columnsAfter, mem_columnsAfter t, mem_columnsAfter s, hcolumns, or_assoc]
  | regexpExtract s pattern g =>
    have hcolumns : c ∈ (regexpExtract s pattern g).columns ↔ c ∈ s.columns ∨ c ∈ g.columns :=
      mem_columnsAfter g _
    rw [columnsAfter, mem_columnsAfter g, mem_columnsAfter s, hcolumns, or_assoc]
  | sha2 s b =>
    have hcolumns : c ∈ (sha2 s b).columns ↔ c ∈ s.columns ∨ c ∈ b.columns := mem_columnsAfter b _
    rw [columnsAfter, mem_columnsAfter b, mem_columnsAfter s, hcolumns, or_assoc]

theorem mem_columnsOfAll (es : List Expr) (seen : List String) :
    c ∈ columnsOfAll seen es ↔ c ∈ seen ∨ c ∈ columnsOfAll [] es := by
  cases es with
  | nil => exact (or_iff_left List.not_mem_nil).symm
  | cons e rest =>
    have hcolumns : c ∈ columnsOfAll [] (e :: rest) ↔ c ∈ e.columns ∨ c ∈ columnsOfAll [] rest :=
      mem_columnsOfAll rest _
    rw [columnsOfAll, mem_columnsOfAll rest, mem_columnsAfter e, hcolumns, or_assoc]

end

theorem nodup_addName (h : names.Nodup) : (addName names name).Nodup := by
  unfold addName
  split
  · exact h
  · next hname =>
    have hnot : name ∉ names := fun hm => hname (List.contains_iff_mem.2 hm)
    exact List.nodup_append.2 ⟨h, List.nodup_cons.2 ⟨List.not_mem_nil, List.nodup_nil⟩, fun a ha b hb => by
      rw [List.mem_singleton.1 hb]
      exact fun he => hnot (he ▸ ha)⟩

mutual

theorem nodup_columnsAfter (e : Expr) {seen : List String} (h : seen.Nodup) :
    (e.columnsAfter seen).Nodup := by
  cases e with
  | column name => exact nodup_addName h
  | literal v => exact h
  | castText e | upper e | lower e => exact nodup_columnsAfter e h
  | concat args => exact nodup_columnsOfAll args h
  | substrFrom s p => exact nodup_columnsAfter p (nodup_columnsAfter s h)
  | substr s p n =>
    exact nodup_columnsAfter n (nodup_columnsAfter p (nodup_columnsAfter s h))
  | regexpReplace s pattern t => exact nodup_columnsAfter t (nodup_columnsAfter s h)
  | regexpExtract s pattern g => exact nodup_columnsAfter g (nodup_columnsAfter s h)
  | sha2 s b => exact nodup_columnsAfter b (nodup_columnsAfter s h)

theorem nodup_columnsOfAll (es : List Expr) {seen : List String} (h : seen.Nodup) :
    (columnsOfAll seen es).Nodup := by
  cases es with
  | nil => exact h
  | cons e rest => exact nodup_columnsOfAll rest (nodup_columnsAfter e h)

end

/-! ## Values -/

mutual

theorem eval_congr (e : Expr) (h : ∀ c ∈ e.columns, r.get? c = r'.get? c) :
    e.eval r = e.eval r' := by
  cases e with
  | column name =>
    have hname : name ∈ addName [] name := mem_addName.2 (.inr rfl)
    rw [eval, eval, h name hname]
  | literal v => rw [eval, eval]
  | castText e | upper e | lower e => rw [eval, eval, eval_congr e h]
  | concat args => rw [eval, eval, concatText_congr args h]
  | substrFrom s p =>
    have hs := eval_congr s fun c hc => h c ((mem_columnsAfter p _).2 (.inl hc))
    have hp := eval_congr p fun c hc => h c ((mem_columnsAfter p _).2 (.inr hc))
    rw [eval, eval, hs, hp]
  | substr s p n =>
    have hsp (c : String) (hc : c ∈ p.columnsAfter s.columns) :=
      h c ((mem_columnsAfter n _).2 (.inl hc))
    have hs := eval_congr s fun c hc => hsp c ((mem_columnsAfter p _).2 (.inl hc))
    have hp := eval_congr p fun c hc => hsp c ((mem_columnsAfter p _).2 (.inr hc))
    have hn := eval_congr n fun c hc => h c ((mem_columnsAfter n _).2 (.inr hc))
    rw [eval, eval, hs, hp, hn]
  | regexpReplace s pattern t =>
    have hs := eval_congr s fun c hc => h c ((mem_columnsAfter t _).2 (.inl hc))
    have ht := eval_congr t fun c hc => h c ((mem_columnsAfter t _).2 (.inr hc))
    rw [eval, eval, hs, ht]
  | regexpExtract s pattern g =>
    have hs := eval_congr s fun c hc => h c ((mem_columnsAfter g _).2 (.inl hc))
    have hg := eval_congr g fun c hc => h c ((mem_columnsAfter g _).2 (.inr hc))
    rw [eval, eval, hs, hg]
  | sha2 s b =>
    have hs := eval_congr s fun c hc => h c ((mem_columnsAfter b _).2 (.inl hc))
    have hb := eval_congr b fun c hc => h c ((mem_columnsAfter b _).2 (.inr hc))
    rw [eval, eval, hs, hb]

theorem concatText_congr (es : List Expr) (h : ∀ c ∈ columnsOfAll [] es, r.get? c = r'.get? c) :
    concatText r es = concatText r' es := by
  cases es with
  | nil => rw [concatText, concatText]
  | cons e rest =>
    have he := eval_congr e fun c hc => h c ((mem_columnsOfAll rest _).2 (.inl hc))
    have hrest := concatText_congr rest fun c hc => h c ((mem_columnsOfAll rest _).2 (.inr hc))
    rw [concatText, concatText, he, hrest]

end

/-! ## Columns that are missing -/

/-- That a computation on a record names a missing column only if it is one of some names, and
the record lacks it. -/
def Misses {α : Type} (r : Record) (names : List String) (x : Except ExprError α) : Prop :=
  ∀ c, x = .error (.missingColumn c) → c ∈ names ∧ r.get? c = none

namespace Misses

variable {α β : Type} {x : Except ExprError α}

theorem mono {names' : List String} (h : Misses r names x) (hsub : ∀ c ∈ names, c ∈ names') :
    Misses r names' x := fun c hc => (h c hc).imp_left (hsub c)

theorem ok (a : α) : Misses r names (.ok a) := fun c h => by cases h

theorem bind {f : α → Except ExprError β} (h : Misses r names x)
    (hf : ∀ a, Misses r names (f a)) : Misses r names (x >>= f) := by
  cases x with
  | error e =>
    intro c hc
    exact h c (congrArg Except.error (Except.error.inj hc))
  | ok a => exact hf a

theorem orNull {a : Option α} {f : α → Except ExprError Value}
    (hf : ∀ a, Misses r names (f a)) : Misses r names (orNull a f) := by
  cases a with
  | none => exact ok _
  | some a => exact hf a

/-- A computation that looks at values only. -/
theorem of_ne (h : ∀ c, x ≠ .error (.missingColumn c)) : Misses r names x :=
  fun c hc => absurd hc (h c)

end Misses

theorem integerOf_ne_missing (v : Value) (c : String) :
    integerOf v ≠ .error (.missingColumn c) := by
  unfold integerOf
  intro h
  split at h
  · cases h
  · split at h
    · split at h <;> cases h
    · cases h
  · split at h <;> cases h
  · cases h

theorem digestText_ne_missing (s : String) (bits : Int) (c : String) :
    digestText s bits ≠ .error (.missingColumn c) := by
  unfold digestText
  intro h
  repeat' split at h
  all_goals cases h

theorem extractText_ne_missing (p : Pattern) (s : String) (group : Int) (c : String) :
    extractText p s group ≠ .error (.missingColumn c) := by
  unfold extractText
  intro h
  split at h <;> cases h


theorem misses_integerOf (v : Value) : Misses r names (integerOf v) :=
  .of_ne (integerOf_ne_missing v)

mutual

/-- An expression misses only columns that it lists. -/
theorem misses_eval (r : Record) (e : Expr) : Misses r e.columns (e.eval r) := by
  cases e with
  | column name =>
    intro c h
    rw [eval] at h
    split at h
    · cases h
    · next hnone =>
      obtain rfl := ExprError.missingColumn.inj (Except.error.inj h)
      have hname : name ∈ addName [] name := mem_addName.2 (.inr rfl)
      exact ⟨hname, hnone⟩
  | literal v =>
    rw [eval]
    exact .ok v
  | castText e =>
    rw [eval]
    exact (misses_eval r e).bind fun v => .ok _
  | upper e | lower e =>
    rw [eval]
    exact (misses_eval r e).bind fun v => .orNull fun s => .ok _
  | concat args =>
    rw [eval]
    exact (misses_concatText r args).bind fun t => .ok _
  | substrFrom s p =>
    have hs := (misses_eval r s).mono fun c hc => (mem_columnsAfter p _).2 (.inl hc)
    have hp := (misses_eval r p).mono fun c hc => (mem_columnsAfter p s.columns).2 (.inr hc)
    rw [eval]
    exact hs.bind fun v => .orNull fun t => hp.bind fun w => (misses_integerOf w).bind fun i =>
      .orNull fun i => .ok _
  | substr s p n =>
    have hsp (c : String) (hc : c ∈ p.columnsAfter s.columns) : c ∈ (substr s p n).columns :=
      (mem_columnsAfter n _).2 (.inl hc)
    have hs := (misses_eval r s).mono fun c hc => hsp c ((mem_columnsAfter p _).2 (.inl hc))
    have hp := (misses_eval r p).mono fun c hc => hsp c ((mem_columnsAfter p _).2 (.inr hc))
    have hn := (misses_eval r n).mono fun c hc =>
      (mem_columnsAfter n (p.columnsAfter s.columns)).2 (.inr hc)
    rw [eval]
    exact hs.bind fun v => .orNull fun t => hp.bind fun w => (misses_integerOf w).bind fun i =>
      .orNull fun i => hn.bind fun w => (misses_integerOf w).bind fun k => .orNull fun k => .ok _
  | regexpReplace s pattern t =>
    have hs := (misses_eval r s).mono fun c hc => (mem_columnsAfter t _).2 (.inl hc)
    have ht := (misses_eval r t).mono fun c hc => (mem_columnsAfter t s.columns).2 (.inr hc)
    rw [eval]
    exact hs.bind fun v => .orNull fun u => ht.bind fun w => .orNull fun t => .ok _
  | regexpExtract s pattern g =>
    have hs := (misses_eval r s).mono fun c hc => (mem_columnsAfter g _).2 (.inl hc)
    have hg := (misses_eval r g).mono fun c hc => (mem_columnsAfter g s.columns).2 (.inr hc)
    rw [eval]
    exact hs.bind fun v => .orNull fun u => hg.bind fun w => (misses_integerOf w).bind fun i =>
      .orNull fun i => (Misses.of_ne (extractText_ne_missing pattern u i)).bind fun t => .ok _
  | sha2 s b =>
    have hs := (misses_eval r s).mono fun c hc => (mem_columnsAfter b _).2 (.inl hc)
    have hb := (misses_eval r b).mono fun c hc => (mem_columnsAfter b s.columns).2 (.inr hc)
    rw [eval]
    exact hs.bind fun v => .orNull fun u => hb.bind fun w => (misses_integerOf w).bind fun i =>
      .orNull fun i => (Misses.of_ne (digestText_ne_missing u i)).bind fun t => .ok _

theorem misses_concatText (r : Record) (es : List Expr) :
    Misses r (columnsOfAll [] es) (concatText r es) := by
  cases es with
  | nil =>
    rw [concatText]
    exact .ok _
  | cons e rest =>
    have he := (misses_eval r e).mono fun c hc => (mem_columnsOfAll rest _).2 (.inl hc)
    have hrest := (misses_concatText r rest).mono fun c hc =>
      (mem_columnsOfAll rest e.columns).2 (.inr hc)
    rw [concatText]
    refine he.bind fun v => ?_
    split
    · exact .ok _
    · exact hrest.bind fun t => .ok _

end

end Quarantine.Expr
