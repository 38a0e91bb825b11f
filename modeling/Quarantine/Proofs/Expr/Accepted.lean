import Quarantine.Proofs.Expr.Reading

/-!
# The texts that can be read

A text is read as a predicate, or as a redaction, exactly if all its tokens together are those of
a derivation that denotes one.  The derivation is the only one of the text.

    parsePredicate_ok_iff, parseRedaction_ok_iff   what is read
    accepted_iff_derived                           both, and that derivations are unique
-/

namespace Quarantine.Expr

open Quarantine.Text Quarantine.Json

/-- That a text has these tokens. -/
def HasTokens (text : String) (ts : List Token) : Prop :=
  ∃ ls stop, tokens text = .ok (ls, stop) ∧ ls.map Lexeme.token = ts

section

variable {text s : String} {r r' : Rest} {ts us : List Token}

theorem hasTokens_iff : HasTokens text ts ↔ ∃ r, start text = .ok r ∧ r.tokens = ts := by
  constructor
  · rintro ⟨ls, stop, htext, hts⟩
    exact ⟨⟨ls, stop⟩, by rw [start, htext], hts⟩
  · rintro ⟨r, hstart, hts⟩
    unfold start at hstart
    split at hstart
    · next ls stop htext =>
      obtain rfl := Except.ok.inj hstart
      exact ⟨ls, stop, htext, hts⟩
    · cases hstart

theorem HasTokens.eq (h : HasTokens text ts) (h' : HasTokens text us) : ts = us := by
  obtain ⟨ls, stop, htext, rfl⟩ := h
  obtain ⟨ls', stop', htext', rfl⟩ := h'
  rw [htext] at htext'
  rw [(Prod.mk.inj (Except.ok.inj htext')).1]

/-! ## The end -/

/-- The end of a text is not among its tokens. -/
theorem stop_ne_of_readToken {c : Char} {rest more : List Char} {t : Token}
    (h : readToken c rest = .ok (t, more)) : t ≠ .stop := by
  rintro rfl
  unfold readToken at h
  split at h
  case h_5 => split at h <;> cases h
  case h_6 =>
    split at h
    · split at h <;> cases h
    split at h
    · split at h <;> cases h
    split at h <;> cases h
  all_goals cases h

theorem Lexes.stop_not_mem {cs : List Char} (h : Lexes cs ts) : .stop ∉ ts := by
  induction h with
  | nil => exact List.not_mem_nil
  | cons h hread hmore ih =>
    exact List.not_mem_cons_of_ne_of_not_mem (stop_ne_of_readToken hread).symm ih

theorem HasTokens.stop_not_mem (h : HasTokens text ts) : .stop ∉ ts :=
  (tokens_ok_iff.2 h).stop_not_mem

namespace Rest

theorem finished_ok (h : r.finished = .ok ()) (hstop : .stop ∉ r.tokens) : r.tokens = [] := by
  unfold finished at h
  split at h
  · next hpeek =>
    cases htokens : r.tokens with
    | nil => rfl
    | cons t ts =>
      rw [peek_of_tokens htokens] at hpeek
      rw [htokens, hpeek] at hstop
      exact absurd List.mem_cons_self hstop
  · cases h

theorem finished_of_tokens (h : r.tokens = []) : r.finished = .ok () := by
  obtain ⟨lexemes, stop⟩ := r
  obtain rfl := List.map_eq_nil_iff.1 h
  rfl

end Rest

/-! ## Parts of predicates -/

open PredicatePhrase

namespace Rest

def afterNegation (r : Rest) : Rest := if r.isKeyword "NOT" then r.next else r

def operator (r : Rest) : Except ExprError Rest :=
  if r.isKeyword "REGEXP" || r.isKeyword "RLIKE" then .ok r.next else r.fail .noMatchOperator

def result (r : Rest) : Except ExprError Rest :=
  if r.isKeyword "AS" then (r.next.identifier).map Prod.snd else .ok r

theorem exists_negation (r : Rest) :
    ∃ n, r.isKeyword "NOT" = n.isSome ∧ r.tokens = negationTokens n ++ r.afterNegation.tokens := by
  unfold afterNegation
  by_cases hnot : r.isKeyword "NOT" = true
  · obtain ⟨k, hk⟩ := isKeyword_iff.1 hnot
    exact ⟨some k, hnot, by rw [if_pos hnot, hk]; rfl⟩
  · exact ⟨none, Bool.not_eq_true _ ▸ hnot, by rw [if_neg hnot]; rfl⟩

theorem negation_of_tokens {n : Option (Keyword ["NOT"])} {o : Keyword ["REGEXP", "RLIKE"]}
    (h : r.tokens = negationTokens n ++ .word o.word :: us) :
    r.isKeyword "NOT" = n.isSome ∧ r.afterNegation.tokens = .word o.word :: us := by
  unfold afterNegation
  cases n with
  | some k =>
    have hnext : r.next.tokens = .word o.word :: us := tokens_next h
    have hnot := isKeyword_iff.2 ⟨k, hnext ▸ h⟩
    rw [if_pos hnot]
    exact ⟨hnot, hnext⟩
  | none =>
    have hnot : r.isKeyword "NOT" = false := by
      rw [isKeyword, peek_of_tokens h]
      refine beq_eq_false_iff_ne.2 fun ho => ?_
      have hmem := o.upper_mem
      rw [ho] at hmem
      revert hmem
      decide
    rw [hnot]
    exact ⟨rfl, h⟩

theorem isOperator_iff :
    (r.isKeyword "REGEXP" || r.isKeyword "RLIKE") = true ↔
      ∃ o : Keyword ["REGEXP", "RLIKE"], r.tokens = .word o.word :: r.next.tokens := by
  rw [Bool.or_eq_true, isKeyword_iff, isKeyword_iff]
  constructor
  · rintro (⟨k, hk⟩ | ⟨k, hk⟩)
    · exact ⟨⟨k.word, List.mem_cons.2 (.inl (List.mem_singleton.1 k.upper_mem))⟩, hk⟩
    · exact ⟨⟨k.word, List.mem_cons_of_mem _ k.upper_mem⟩, hk⟩
  · rintro ⟨⟨w, hw⟩, ho⟩
    rw [List.mem_cons] at hw
    rcases hw with hw | hw
    · exact .inl ⟨⟨w, List.mem_singleton.2 hw⟩, ho⟩
    · exact .inr ⟨⟨w, hw⟩, ho⟩

theorem operator_ok (h : r.operator = .ok r') :
    ∃ o : Keyword ["REGEXP", "RLIKE"], r.tokens = .word o.word :: r'.tokens := by
  unfold operator at h
  split at h
  · next ho => exact Except.ok.inj h ▸ isOperator_iff.1 ho
  · cases h

theorem operator_of_tokens (o : Keyword ["REGEXP", "RLIKE"]) (h : r.tokens = .word o.word :: us) :
    r.operator = .ok r.next := by
  rw [operator, if_pos (isOperator_iff.2 ⟨o, tokens_next h ▸ h⟩)]

/-- A predicate may name its result. -/
theorem result_ok (h : r.result = .ok r') :
    ∃ named, r.tokens = resultTokens named ++ r'.tokens := by
  unfold result at h
  split at h
  · next has =>
    obtain ⟨k, hk⟩ := isKeyword_iff.1 has
    obtain ⟨⟨s, r₁⟩, hs, rfl⟩ := exists_of_map_ok h
    obtain ⟨i, -, hi⟩ := identifier_ok hs
    exact ⟨some (k, i), by rw [hk, hi]; rfl⟩
  · exact ⟨none, Except.ok.inj h ▸ rfl⟩

theorem result_of_tokens {named : Option (Keyword ["AS"] × Identifier)}
    (h : r.tokens = resultTokens named) : ∃ r', r.result = .ok r' ∧ r'.tokens = [] := by
  unfold result
  cases named with
  | none =>
    have has : r.isKeyword "AS" ≠ true := by
      intro has
      obtain ⟨k, hk⟩ := isKeyword_iff.1 has
      rw [h] at hk
      cases hk
    exact ⟨r, if_neg has, h⟩
  | some named =>
    obtain ⟨k, i⟩ := named
    have hi : r.next.tokens = [i.token] := tokens_next h
    rw [if_pos (isKeyword_iff.2 ⟨k, hi ▸ h⟩), identifier_of_tokens i hi]
    exact ⟨_, rfl, tokens_next hi⟩

end Rest

theorem patternText_of_open (h : r.peek = .openParen) :
    patternText r = match r.next.peek with
      | .text s => r.next.next.closeParen.map (s, ·)
      | _ => r.next.next.fail .noPattern := by
  simp only [patternText, if_pos h] <;> rfl

theorem patternText_of_not_open (h : r.peek ≠ .openParen) :
    patternText r = match r.peek with
      | .text s => .ok (s, r.next)
      | _ => r.next.fail .noPattern := by
  simp only [patternText, if_neg h] <;> rfl

theorem patternText_ok (h : patternText r = .ok (s, r')) :
    ∃ enclosed, r.tokens = patternTokens enclosed s ++ r'.tokens := by
  by_cases hopen : r.peek = .openParen
  · rw [patternText_of_open hopen] at h
    split at h
    · next s' hs =>
      obtain ⟨r₁, hclose, he⟩ := exists_of_map_ok h
      obtain ⟨rfl, rfl⟩ := Prod.mk.inj he
      refine ⟨true, ?_⟩
      rw [Rest.tokens_of_peek hopen Token.noConfusion, Rest.tokens_of_peek hs Token.noConfusion,
        Rest.closeParen_ok hclose]
      rfl
    · cases h
  · rw [patternText_of_not_open hopen] at h
    split at h
    · next s' hs =>
      obtain ⟨rfl, rfl⟩ := Prod.mk.inj (Except.ok.inj h)
      exact ⟨false, Rest.tokens_of_peek hs Token.noConfusion⟩
    · cases h

theorem patternText_of_tokens {enclosed : Bool} (h : r.tokens = patternTokens enclosed s ++ us) :
    ∃ r', patternText r = .ok (s, r') ∧ r'.tokens = us := by
  cases enclosed with
  | false =>
    have hpeek : r.peek = .text s := Rest.peek_of_tokens h
    rw [patternText_of_not_open (hpeek ▸ Token.noConfusion), hpeek]
    exact ⟨_, rfl, Rest.tokens_next h⟩
  | true =>
    have htext := Rest.tokens_next h
    have hclose := Rest.tokens_next htext
    rw [patternText_of_open (Rest.peek_of_tokens h), Rest.peek_of_tokens htext]
    dsimp only
    rw [Rest.closeParen_of_tokens hclose]
    exact ⟨_, rfl, Rest.tokens_next hclose⟩

end

/-! ## Predicates and redactions -/

section

open PredicatePhrase

variable {text : String}

/-- A predicate is read part after part. -/
theorem parsePredicate_eq (text : String) :
    parsePredicate text = do
      let r ← start text
      let (subject, r) ← expression r
      let r₂ ← r.afterNegation.operator
      let (source, r₃) ← patternText r₂
      let pattern ← patternOf source
      let r₄ ← r₃.result
      r₄.finished
      return ⟨subject, pattern, r.isKeyword "NOT"⟩ := by
  unfold parsePredicate Rest.operator Rest.result
  refine bind_congr fun r => bind_congr fun x => ?_
  have hite {α β : Type} (c : Prop) [Decidable c] (x y : Except ExprError α)
      (f : α → Except ExprError β) :
      (if c then x else y) >>= f = if c then x >>= f else y >>= f := apply_ite (· >>= f) c x y
  simp only [hite]
  rfl

theorem exists_of_parsePredicate {p : Predicate} (h : parsePredicate text = .ok p) :
    ∃ d : PredicatePhrase, HasTokens text d.tokens ∧ d.Denotes p := by
  rw [parsePredicate_eq] at h
  obtain ⟨r, hstart, h⟩ := exists_of_bind_ok h
  obtain ⟨⟨subject, r₁⟩, hsubject, h⟩ := exists_of_bind_ok h
  obtain ⟨r₂, hoperator, h⟩ := exists_of_bind_ok h
  obtain ⟨⟨source, r₃⟩, hsource, h⟩ := exists_of_bind_ok h
  obtain ⟨pattern, hpattern, h⟩ := exists_of_bind_ok h
  obtain ⟨r₄, hresult, h⟩ := exists_of_bind_ok h
  obtain ⟨⟨⟩, hfinished, h⟩ := exists_of_bind_ok h
  obtain rfl := Except.ok.inj h
  obtain ⟨subject, hdenotes, hsubject⟩ := expression_ok hsubject
  obtain ⟨negation, hnot, hnegation⟩ := Rest.exists_negation r₁
  obtain ⟨operator, hoperator⟩ := Rest.operator_ok hoperator
  obtain ⟨enclosed, hsource⟩ := patternText_ok hsource
  obtain ⟨named, hresult⟩ := Rest.result_ok hresult
  have htext := hasTokens_iff.2 ⟨r, hstart, rfl⟩
  have hstop := htext.stop_not_mem
  rw [hsubject, hnegation, hoperator, hsource, hresult] at htext hstop
  simp only [List.mem_append, List.mem_cons, not_or] at hstop
  rw [Rest.finished_ok hfinished hstop.2.2.2.2.2, List.append_nil] at htext
  exact ⟨⟨subject, negation, operator, enclosed, source, named⟩, htext, hdenotes,
    patternOf_ok_iff.1 hpattern, hnot⟩

theorem parsePredicate_of_denotes {p : Predicate} {d : PredicatePhrase}
    (htext : HasTokens text d.tokens) (hd : d.Denotes p) : parsePredicate text = .ok p := by
  obtain ⟨r, hstart, hr⟩ := hasTokens_iff.1 htext
  have hhead : (negationTokens d.negation ++ .word d.operator.word ::
      (patternTokens d.enclosed d.pattern ++ resultTokens d.result)).head? ≠ some .openParen := by
    cases d.negation <;> simp [negationTokens]
  obtain ⟨r₁, hsubject, hr₁⟩ := expression_of_tokens hd.subject hr hhead
  obtain ⟨hnot, hr₂⟩ := Rest.negation_of_tokens hr₁
  obtain ⟨r₃, hsource, hr₃⟩ := patternText_of_tokens (Rest.tokens_next hr₂)
  obtain ⟨r₄, hresult, hr₄⟩ := Rest.result_of_tokens hr₃
  rw [parsePredicate_eq]
  simp only [bind, Except.bind, hstart, hsubject, Rest.operator_of_tokens d.operator hr₂, hsource,
    patternOf_ok_iff.2 hd.pattern, hresult, Rest.finished_of_tokens hr₄, hnot, ← hd.negated, pure,
    Except.pure]

theorem parsePredicate_ok_iff {p : Predicate} :
    parsePredicate text = .ok p ↔ ∃ d : PredicatePhrase, HasTokens text d.tokens ∧ d.Denotes p :=
  ⟨exists_of_parsePredicate, fun ⟨_, htext, hd⟩ => parsePredicate_of_denotes htext hd⟩

theorem exists_of_parseRedaction {red : Redaction} (h : parseRedaction text = .ok red) :
    ∃ d : RedactionPhrase, HasTokens text d.tokens ∧ d.Denotes red := by
  unfold parseRedaction at h
  obtain ⟨r, hstart, h⟩ := exists_of_bind_ok h
  obtain ⟨⟨value, r₁⟩, hvalue, h⟩ := exists_of_bind_ok h
  obtain ⟨r₂, hinto, h⟩ := exists_of_bind_ok h
  obtain ⟨⟨target, r₃⟩, htarget, h⟩ := exists_of_bind_ok h
  obtain ⟨⟨⟩, hfinished, h⟩ := exists_of_bind_ok h
  obtain rfl := Except.ok.inj h
  obtain ⟨value, hdenotes, hvalue⟩ := expression_ok hvalue
  obtain ⟨into, hinto⟩ := Rest.keyword_ok hinto
  obtain ⟨i, hi, htoken⟩ := Rest.identifier_ok htarget
  have htext := hasTokens_iff.2 ⟨r, hstart, rfl⟩
  have hstop := htext.stop_not_mem
  rw [hvalue, hinto, htoken] at htext hstop
  simp only [List.mem_append, List.mem_cons, not_or] at hstop
  rw [Rest.finished_ok hfinished hstop.2.2.2] at htext
  exact ⟨⟨value, into, i⟩, htext, hdenotes, hi.symm⟩

theorem parseRedaction_of_denotes {red : Redaction} {d : RedactionPhrase}
    (htext : HasTokens text d.tokens) (hd : d.Denotes red) : parseRedaction text = .ok red := by
  obtain ⟨r, hstart, hr⟩ := hasTokens_iff.1 htext
  obtain ⟨r₁, hvalue, hr₁⟩ := expression_of_tokens hd.value hr (by simp)
  have hr₂ := Rest.tokens_next hr₁
  unfold parseRedaction
  simp only [bind, Except.bind, hstart, hvalue, Rest.keyword_of_tokens d.into hr₁,
    Rest.identifier_of_tokens d.target hr₂, Rest.finished_of_tokens (Rest.tokens_next hr₂),
    ← hd.target, pure, Except.pure]

theorem parseRedaction_ok_iff {red : Redaction} :
    parseRedaction text = .ok red ↔
      ∃ d : RedactionPhrase, HasTokens text d.tokens ∧ d.Denotes red :=
  ⟨exists_of_parseRedaction, fun ⟨_, htext, hd⟩ => parseRedaction_of_denotes htext hd⟩

end

/-- What can be read is what the grammar derives, and it is derived in one way. -/
theorem accepted_iff_derived (text : String) :
    (∀ p, parsePredicate text = .ok p ↔
      ∃ d : PredicatePhrase, HasTokens text d.tokens ∧ d.Denotes p) ∧
    (∀ red, parseRedaction text = .ok red ↔
      ∃ d : RedactionPhrase, HasTokens text d.tokens ∧ d.Denotes red) ∧
    (∀ d d' : PredicatePhrase, HasTokens text d.tokens → HasTokens text d'.tokens → d = d') ∧
    (∀ d d' : RedactionPhrase, HasTokens text d.tokens → HasTokens text d'.tokens → d = d') :=
  ⟨fun _ => parsePredicate_ok_iff, fun _ => parseRedaction_ok_iff,
    fun _ _ hd hd' => PredicatePhrase.eq_of_tokens_eq (hd.eq hd'),
    fun _ _ hd hd' => RedactionPhrase.eq_of_tokens_eq (hd.eq hd')⟩

end Quarantine.Expr
