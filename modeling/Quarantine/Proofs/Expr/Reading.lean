import Quarantine.Proofs.Expr.Grammar
import Quarantine.Proofs.Expr.Tokens
import Quarantine.Proofs.Fallible

/-!
# Reading is by the grammar

What is read is the expression of a phrase, and the phrase is all that was taken.  The other way
round, a phrase is read wherever it stands, if no parenthesis after it makes a call of its word.
Every step of reading takes a token, so that as many steps as there are tokens are enough.

    read_phrases     what is read is a phrase
    reads_phrases    a phrase is read
-/

namespace Quarantine.Expr

open Quarantine.Text Quarantine.Json

/-! ## Single tokens -/

namespace Rest

/-- The tokens that are left to read. -/
def tokens (r : Rest) : List Token := r.lexemes.map Lexeme.token

variable {r r' : Rest} {t : Token} {ts : List Token}

theorem peek_of_tokens (h : r.tokens = t :: ts) : r.peek = t := by
  obtain ⟨lexemes, stop⟩ := r
  cases lexemes with
  | nil => cases h
  | cons l ls => exact (List.cons.inj h).1

theorem tokens_next (h : r.tokens = t :: ts) : r.next.tokens = ts := by
  obtain ⟨lexemes, stop⟩ := r
  cases lexemes with
  | nil => cases h
  | cons l ls => exact (List.cons.inj h).2

theorem tokens_of_peek (h : r.peek = t) (ht : t ≠ .stop) : r.tokens = t :: r.next.tokens := by
  obtain ⟨lexemes, stop⟩ := r
  cases lexemes with
  | nil => exact absurd h.symm ht
  | cons l ls => exact congrArg (· :: _) h

theorem peek_ne_of_head? (ht : t ≠ .stop) (h : r.tokens.head? ≠ some t) : r.peek ≠ t := by
  intro hpeek
  rw [tokens_of_peek hpeek ht] at h
  exact h rfl

theorem isKeyword_iff {s : String} :
    r.isKeyword s = true ↔ ∃ k : Keyword [s], r.tokens = .word k.word :: r.next.tokens := by
  unfold isKeyword
  constructor
  · intro h
    split at h
    · next w hw =>
      exact ⟨⟨w, List.mem_singleton.2 (beq_iff_eq.1 h)⟩, tokens_of_peek hw Token.noConfusion⟩
    · cases h
  · rintro ⟨k, hk⟩
    rw [peek_of_tokens hk]
    exact beq_iff_eq.2 (List.mem_singleton.1 k.upper_mem)

theorem keyword_ok {s : String} (h : r.keyword s = .ok r') :
    ∃ k : Keyword [s], r.tokens = .word k.word :: r'.tokens := by
  unfold keyword at h
  split at h
  · next hk => exact Except.ok.inj h ▸ isKeyword_iff.1 hk
  · cases h

theorem keyword_of_tokens {s : String} (k : Keyword [s]) (h : r.tokens = .word k.word :: ts) :
    r.keyword s = .ok r.next := by
  rw [keyword, if_pos (isKeyword_iff.2 ⟨k, tokens_next h ▸ h⟩)]

theorem closeParen_ok (h : r.closeParen = .ok r') : r.tokens = .closeParen :: r'.tokens := by
  unfold closeParen at h
  split at h
  · next hpeek => exact Except.ok.inj h ▸ tokens_of_peek hpeek Token.noConfusion
  · cases h

theorem closeParen_of_tokens (h : r.tokens = .closeParen :: ts) : r.closeParen = .ok r.next := by
  rw [closeParen, if_pos (peek_of_tokens h)]

theorem identifier_ok {s : String} (h : r.identifier = .ok (s, r')) :
    ∃ i : Identifier, i.text = s ∧ r.tokens = i.token :: r'.tokens := by
  unfold identifier at h
  split at h
  · next w hw =>
    obtain ⟨rfl, rfl⟩ := Prod.mk.inj (Except.ok.inj h)
    exact ⟨.word w, rfl, tokens_of_peek hw Token.noConfusion⟩
  · next w hw =>
    obtain ⟨rfl, rfl⟩ := Prod.mk.inj (Except.ok.inj h)
    exact ⟨.name w, rfl, tokens_of_peek hw Token.noConfusion⟩
  · cases h

theorem identifier_of_tokens (i : Identifier) (h : r.tokens = i.token :: ts) :
    r.identifier = .ok (i.text, r.next) := by
  unfold identifier
  rw [peek_of_tokens h]
  cases i <;> rfl

end Rest

/-! ## Casts and calls -/

theorem cast_ok_iff {target : String} {inner e : Expr} :
    cast target inner = .ok e ↔
      asciiUpper target ∈ ["STRING", "VARCHAR"] ∧ e = .castText inner := by
  unfold cast
  rw [List.mem_cons, List.mem_singleton]
  split
  · next h => exact ⟨fun he => ⟨h, (Except.ok.inj he).symm⟩, fun he => he.2 ▸ rfl⟩
  · next h => exact ⟨nofun, fun he => absurd he.1 h⟩

theorem patternOf_ok_iff {text : String} {p : Pattern} :
    patternOf text = .ok p ↔ Pattern.compile? text = some p := by
  unfold patternOf
  cases Pattern.compile? text with
  | none => exact ⟨nofun, nofun⟩
  | some q => exact ⟨fun h => congrArg some (Except.ok.inj h), fun h => Option.some.inj h ▸ rfl⟩

/-- A call that takes a pattern takes it from a text that is written out. -/
theorem exists_of_map_literalPattern {f : String} {a e : Expr} {g : Pattern → Expr}
    (h : (literalPattern f a).map g = .ok e) :
    ∃ text p, a = .literal (.string text) ∧ Pattern.compile? text = some p ∧ e = g p := by
  unfold literalPattern at h
  split at h
  · next text =>
    obtain ⟨p, hp, rfl⟩ := exists_of_map_ok h
    exact ⟨text, p, rfl, patternOf_ok_iff.1 hp, rfl⟩
  · cases h

/-- A call is made where the function admits it. -/
theorem applies_of_call {name : String} {args : List Expr} {e : Expr} (h : call name args = .ok e) :
    Applies (asciiLower name) args e := by
  unfold call at h
  dsimp only at h
  generalize asciiLower name = f at h ⊢
  split at h
  case h_1 =>
    split at h
    · cases h
    · next hargs =>
      rw [← Except.ok.inj h]
      exact .concat fun he => hargs (List.isEmpty_iff.2 he)
  case h_2 | h_3 =>
    split at h
    · exact Except.ok.inj h ▸ .substrFrom (by simp) _ _
    · exact Except.ok.inj h ▸ .substr (by simp) _ _ _
    · cases h
  case h_4 =>
    split at h
    · obtain ⟨text, p, rfl, hp, rfl⟩ := exists_of_map_literalPattern h
      exact .regexpReplace hp _ _
    · cases h
  case h_5 =>
    split at h
    · obtain ⟨text, p, rfl, hp, rfl⟩ := exists_of_map_literalPattern h
      exact .regexpExtractFirst hp _
    · obtain ⟨text, p, rfl, hp, rfl⟩ := exists_of_map_literalPattern h
      exact .regexpExtract hp _ _
    · cases h
  case h_6 =>
    split at h
    · exact Except.ok.inj h ▸ .upper _
    · cases h
  case h_7 =>
    split at h
    · exact Except.ok.inj h ▸ .lower _
    · cases h
  case h_8 =>
    split at h
    · exact Except.ok.inj h ▸ .sha2 _ _
    · cases h
  case h_9 => cases h

theorem call_of_applies {name : String} {args : List Expr} {e : Expr}
    (h : Applies (asciiLower name) args e) : call name args = .ok e := by
  have hpattern {f text : String} {p : Pattern} (hp : Pattern.compile? text = some p)
      (g : Pattern → Expr) : (literalPattern f (.literal (.string text))).map g = .ok (g p) := by
    rw [literalPattern, patternOf_ok_iff.2 hp]
    rfl
  unfold call
  generalize asciiLower name = f at h
  dsimp only
  cases h with
  | concat one =>
    have hargs : args.isEmpty = false := by simpa using one
    simp only [hargs]
    rfl
  | substrFrom hf s p =>
    rw [List.mem_cons, List.mem_singleton] at hf
    rcases hf with rfl | rfl <;> rfl
  | substr hf s p n =>
    rw [List.mem_cons, List.mem_singleton] at hf
    rcases hf with rfl | rfl <;> rfl
  | regexpReplace hp s r => exact hpattern hp _
  | regexpExtractFirst hp s => exact hpattern hp _
  | regexpExtract hp s g => exact hpattern hp _
  | upper e => rfl
  | lower e => rfl
  | sha2 s b => rfl

/-! ## What is read is a phrase -/

theorem readExpr_succ (fuel : Nat) (r : Rest) :
    readExpr (fuel + 1) r =
      match r.peek with
      | .text s => .ok (literal (.string s), r.next)
      | .number n => .ok (literal (integerValue false n), r.next)
      | .minus =>
        match r.next.peek with
        | .number n => .ok (literal (integerValue true n), r.next.next)
        | _ => r.next.next.fail .noInteger
      | .name s => .ok (column s, r.next)
      | .word s =>
        if asciiUpper s = "NULL" then .ok (literal .null, r.next)
        else if r.next.peek ≠ .openParen then .ok (column s, r.next)
        else if asciiUpper s = "CAST" then do
          let (inner, r) ← readExpr fuel r.next.next
          let r ← r.keyword "AS"
          let (target, r) ← r.identifier
          let r ← r.closeParen
          return (← cast target inner, r)
        else do
          let (args, rest) ←
            if r.next.next.peek = .closeParen then pure ([], r.next.next)
            else readArgs fuel r.next.next
          let rest ← rest.closeParen
          return (← call s args, rest)
      | t => r.next.fail (.unexpected t) := rfl

theorem readArgs_succ (fuel : Nat) (r : Rest) :
    readArgs (fuel + 1) r = (do
      let (e, r) ← readExpr fuel r
      if r.peek = .comma then
        let (rest, r) ← readArgs fuel r.next
        return (e :: rest, r)
      else return ([e], r)) := rfl

/-- That what was read is the expression of a phrase at the start of what was left. -/
def ReadPhrase (r : Rest) (e : Expr) (r' : Rest) : Prop :=
  ∃ p : Phrase, Denotes p e ∧ r.tokens = p.tokens ++ r'.tokens

def ReadArgs (r : Rest) (es : List Expr) (r' : Rest) : Prop :=
  ∃ ps : List Phrase, ps ≠ [] ∧ DenoteAll ps es ∧
    r.tokens = Phrase.argTokens ps ++ r'.tokens

section

variable {fuel : Nat} {r r' r₁ : Rest} {s : String} {e inner : Expr} {es : List Expr}

/-- The end of a cast, after the expression that it casts. -/
theorem readPhrase_of_cast (k : Keyword ["CAST"])
    (hr : r.tokens = .word k.word :: .openParen :: r.next.next.tokens)
    (hinner : ReadPhrase r.next.next inner r₁)
    (h : (do
      let r₂ ← r₁.keyword "AS"
      let (target, r₃) ← r₂.identifier
      let r₄ ← r₃.closeParen
      return (← cast target inner, r₄)) = .ok (e, r')) : ReadPhrase r e r' := by
  obtain ⟨r₂, hinto, h⟩ := exists_of_bind_ok h
  obtain ⟨⟨target, r₃⟩, htarget, h⟩ := exists_of_bind_ok h
  obtain ⟨r₄, hclose, h⟩ := exists_of_bind_ok h
  obtain ⟨e', he, h⟩ := exists_of_bind_ok h
  obtain ⟨rfl, rfl⟩ := Prod.mk.inj (Except.ok.inj h)
  obtain ⟨p, hp, hinner⟩ := hinner
  obtain ⟨into, hinto⟩ := Rest.keyword_ok hinto
  obtain ⟨i, rfl, htoken⟩ := Rest.identifier_ok htarget
  obtain ⟨htype, rfl⟩ := cast_ok_iff.1 he
  refine ⟨_, .cast k into hp htype, ?_⟩
  rw [hr, hinner, hinto, htoken, Rest.closeParen_ok hclose, Phrase.tokens]
  simp only [List.cons_append, List.append_assoc, List.nil_append]

/-- The end of a call, after its arguments. -/
theorem readPhrase_of_call (f : Bare ["NULL", "CAST"]) (ps : List Phrase)
    (hr : r.tokens = .word f.word :: .openParen :: (Phrase.argTokens ps ++ r₁.tokens))
    (hps : DenoteAll ps es)
    (h : (do
      let r₂ ← r₁.closeParen
      return (← call f.word es, r₂)) = .ok (e, r')) : ReadPhrase r e r' := by
  obtain ⟨r₂, hclose, h⟩ := exists_of_bind_ok h
  obtain ⟨e', he, h⟩ := exists_of_bind_ok h
  obtain ⟨rfl, rfl⟩ := Prod.mk.inj (Except.ok.inj h)
  refine ⟨_, .call hps (applies_of_call he), ?_⟩
  rw [hr, Rest.closeParen_ok hclose, Phrase.tokens]
  simp only [List.cons_append, List.append_assoc, List.nil_append]

theorem readPhrase_of_readExpr
    (ih : ∀ {r r' : Rest} {e : Expr}, readExpr fuel r = .ok (e, r') → ReadPhrase r e r')
    (ihArgs : ∀ {r r' : Rest} {es : List Expr}, readArgs fuel r = .ok (es, r') → ReadArgs r es r')
    (h : readExpr (fuel + 1) r = .ok (e, r')) : ReadPhrase r e r' := by
  rw [readExpr_succ] at h
  cases hpeek : r.peek with
  | text s =>
    rw [hpeek] at h
    obtain ⟨rfl, rfl⟩ := Prod.mk.inj (Except.ok.inj h)
    exact ⟨_, .text s, Rest.tokens_of_peek hpeek Token.noConfusion⟩
  | number n =>
    rw [hpeek] at h
    obtain ⟨rfl, rfl⟩ := Prod.mk.inj (Except.ok.inj h)
    exact ⟨_, .number n, Rest.tokens_of_peek hpeek Token.noConfusion⟩
  | name s =>
    rw [hpeek] at h
    obtain ⟨rfl, rfl⟩ := Prod.mk.inj (Except.ok.inj h)
    exact ⟨_, .name s, Rest.tokens_of_peek hpeek Token.noConfusion⟩
  | minus =>
    rw [hpeek] at h
    dsimp only at h
    split at h
    · next n hn =>
      obtain ⟨rfl, rfl⟩ := Prod.mk.inj (Except.ok.inj h)
      refine ⟨_, .negative n, ?_⟩
      rw [Rest.tokens_of_peek hpeek Token.noConfusion, Rest.tokens_of_peek hn Token.noConfusion]
      rfl
    · cases h
  | word s =>
    have htokens := Rest.tokens_of_peek hpeek Token.noConfusion
    rw [hpeek] at h
    dsimp only at h
    split at h
    · next hnull =>
      obtain ⟨rfl, rfl⟩ := Prod.mk.inj (Except.ok.inj h)
      exact ⟨_, .null ⟨s, List.mem_singleton.2 hnull⟩, htokens⟩
    next hnull =>
    split at h
    · obtain ⟨rfl, rfl⟩ := Prod.mk.inj (Except.ok.inj h)
      exact ⟨_, .word ⟨s, fun hs => hnull (List.mem_singleton.1 hs)⟩, htokens⟩
    next hopen =>
    rw [Rest.tokens_of_peek (Decidable.not_not.1 hopen) Token.noConfusion] at htokens
    split at h
    · next hcast =>
      obtain ⟨⟨inner, r₁⟩, hinner, h⟩ := exists_of_bind_ok h
      exact readPhrase_of_cast ⟨s, List.mem_singleton.2 hcast⟩ htokens (ih hinner) h
    next hcast =>
    have hs : asciiUpper s ∉ ["NULL", "CAST"] := by
      rw [List.mem_cons, List.mem_singleton]
      exact fun hs => hs.elim hnull hcast
    split at h
    · exact readPhrase_of_call ⟨s, hs⟩ [] htokens .nil h
    · obtain ⟨⟨es, r₁⟩, hread, h⟩ := exists_of_bind_ok h
      obtain ⟨ps, -, hps, hargs⟩ := ihArgs hread
      exact readPhrase_of_call ⟨s, hs⟩ ps (hargs ▸ htokens) hps h
  | _ =>
    rw [hpeek] at h
    cases h

theorem readArgs_of_readArgs
    (ih : ∀ {r r' : Rest} {e : Expr}, readExpr fuel r = .ok (e, r') → ReadPhrase r e r')
    (ihArgs : ∀ {r r' : Rest} {es : List Expr}, readArgs fuel r = .ok (es, r') → ReadArgs r es r')
    (h : readArgs (fuel + 1) r = .ok (es, r')) : ReadArgs r es r' := by
  rw [readArgs_succ] at h
  obtain ⟨⟨e, r₁⟩, he, h⟩ := exists_of_bind_ok h
  obtain ⟨p, hp, hexpr⟩ := ih he
  dsimp only at h
  split at h
  · next hcomma =>
    obtain ⟨⟨rest, r₂⟩, hrest, h⟩ := exists_of_bind_ok h
    obtain ⟨rfl, rfl⟩ := Prod.mk.inj (Except.ok.inj h)
    obtain ⟨ps, hne, hps, hrest⟩ := ihArgs hrest
    refine ⟨p :: ps, List.cons_ne_nil p ps, .cons hp hps, ?_⟩
    rw [hexpr, Rest.tokens_of_peek hcomma Token.noConfusion, hrest, Phrase.argTokens_cons p hne,
      List.append_assoc, List.cons_append]
  · obtain ⟨rfl, rfl⟩ := Prod.mk.inj (Except.ok.inj h)
    exact ⟨[p], List.cons_ne_nil p [], .cons hp .nil, by rw [hexpr, Phrase.argTokens]⟩

end

/-- What is read is a phrase, or are phrases with commas between them. -/
theorem read_phrases (fuel : Nat) :
    (∀ {r r' : Rest} {e : Expr}, readExpr fuel r = .ok (e, r') → ReadPhrase r e r') ∧
      ∀ {r r' : Rest} {es : List Expr}, readArgs fuel r = .ok (es, r') → ReadArgs r es r' := by
  induction fuel with
  | zero => exact ⟨fun h => (nomatch h), fun h => (nomatch h)⟩
  | succ fuel ih =>
    exact ⟨readPhrase_of_readExpr ih.1 ih.2, readArgs_of_readArgs ih.1 ih.2⟩

/-! ## A phrase is read -/

/-- That phrases of up to so many tokens are read, whatever comes after them. -/
def ReadsPhrases (fuel : Nat) : Prop :=
  ∀ {p : Phrase} {e : Expr} {r : Rest} {us : List Token}, Denotes p e → p.tokens.length ≤ fuel →
    r.tokens = p.tokens ++ us → us.head? ≠ some .openParen →
    ∃ r', readExpr fuel r = .ok (e, r') ∧ r'.tokens = us

def ReadsArgs (fuel : Nat) : Prop :=
  ∀ {ps : List Phrase} {es : List Expr} {r : Rest} {us : List Token}, ps ≠ [] →
    DenoteAll ps es → (Phrase.argTokens ps).length < fuel →
    r.tokens = Phrase.argTokens ps ++ .closeParen :: us →
    ∃ r', readArgs fuel r = .ok (es, r') ∧ r'.tokens = .closeParen :: us

section

variable {fuel : Nat} {r : Rest} {us : List Token}

theorem exists_readExpr_cast (ih : ReadsPhrases fuel) (k : Keyword ["CAST"]) {inner : Phrase}
    {e : Expr} (hinner : Denotes inner e) (hfuel : inner.tokens.length ≤ fuel)
    (into : Keyword ["AS"]) {target : Identifier}
    (htype : asciiUpper target.text ∈ ["STRING", "VARCHAR"])
    (hr : r.tokens = .word k.word :: .openParen ::
      (inner.tokens ++ .word into.word :: target.token :: .closeParen :: us)) :
    ∃ r', readExpr (fuel + 1) r = .ok (.castText e, r') ∧ r'.tokens = us := by
  have hopen := Rest.tokens_next hr
  obtain ⟨r₁, hread, hr₁⟩ := ih hinner hfuel (Rest.tokens_next hopen) (by simp)
  have hr₂ := Rest.tokens_next hr₁
  have hr₃ := Rest.tokens_next hr₂
  have hnull : asciiUpper k.word ≠ "NULL" := by
    rw [List.mem_singleton.1 k.upper_mem]
    decide
  rw [readExpr_succ, Rest.peek_of_tokens hr]
  dsimp only
  rw [if_neg hnull, if_neg (Decidable.not_not.2 (Rest.peek_of_tokens hopen)),
    if_pos (List.mem_singleton.1 k.upper_mem), hread]
  refine ⟨r₁.next.next.next, ?_, Rest.tokens_next hr₃⟩
  simp only [bind, Except.bind, Rest.keyword_of_tokens into hr₁,
    Rest.identifier_of_tokens target hr₂, Rest.closeParen_of_tokens hr₃,
    cast_ok_iff.2 ⟨htype, rfl⟩, pure, Except.pure]

theorem exists_readExpr_call (ih : ReadsArgs fuel) (f : Bare ["NULL", "CAST"])
    {ps : List Phrase} {es : List Expr} {e : Expr} (hps : DenoteAll ps es)
    (happlies : Applies (asciiLower f.word) es e) (hfuel : (Phrase.argTokens ps).length < fuel)
    (hr : r.tokens = .word f.word :: .openParen ::
      (Phrase.argTokens ps ++ .closeParen :: us)) :
    ∃ r', readExpr (fuel + 1) r = .ok (e, r') ∧ r'.tokens = us := by
  have hopen := Rest.tokens_next hr
  have hargs := Rest.tokens_next hopen
  have hf := f.upper_not_mem
  rw [List.mem_cons, List.mem_singleton, not_or] at hf
  have hclose {r₁ : Rest} (h₁ : r₁.tokens = .closeParen :: us) :
      ∃ r', (do
        let r₂ ← r₁.closeParen
        return (← call f.word es, r₂)) = .ok (e, r') ∧ r'.tokens = us := by
    rw [Rest.closeParen_of_tokens h₁, call_of_applies happlies]
    exact ⟨_, rfl, Rest.tokens_next h₁⟩
  rw [readExpr_succ, Rest.peek_of_tokens hr]
  dsimp only
  rw [if_neg hf.1, if_neg (Decidable.not_not.2 (Rest.peek_of_tokens hopen)), if_neg hf.2]
  cases hps with
  | nil =>
    rw [if_pos (Rest.peek_of_tokens hargs)]
    exact hclose hargs
  | @cons p _ ps _ hp hps =>
    obtain ⟨t, ts, htokens, -, ht⟩ := p.exists_tokens_eq
    have hpeek : r.next.next.peek ≠ .closeParen := by
      refine Rest.peek_ne_of_head? Token.noConfusion ?_
      rw [hargs, Phrase.argTokens_append, htokens]
      exact fun he => ht (Option.some.inj he)
    obtain ⟨r₁, hread, hr₁⟩ := ih (List.cons_ne_nil p ps) (.cons hp hps) hfuel hargs
    rw [if_neg hpeek, hread]
    exact hclose hr₁

theorem readsPhrases_succ (ih : ReadsPhrases fuel) (ihArgs : ReadsArgs fuel) :
    ReadsPhrases (fuel + 1) := by
  intro p e r us h hfuel hr hus
  cases h with
  | text s | number n | name s =>
    rw [Phrase.tokens] at hr
    rw [readExpr_succ, Rest.peek_of_tokens hr]
    exact ⟨_, rfl, Rest.tokens_next hr⟩
  | negative n =>
    rw [Phrase.tokens] at hr
    rw [readExpr_succ, Rest.peek_of_tokens hr]
    dsimp only
    rw [Rest.peek_of_tokens (Rest.tokens_next hr)]
    exact ⟨_, rfl, Rest.tokens_next (Rest.tokens_next hr)⟩
  | null k =>
    rw [Phrase.tokens] at hr
    rw [readExpr_succ, Rest.peek_of_tokens hr]
    dsimp only
    rw [if_pos (List.mem_singleton.1 k.upper_mem)]
    exact ⟨_, rfl, Rest.tokens_next hr⟩
  | word c =>
    rw [Phrase.tokens] at hr
    have hnext := Rest.tokens_next hr
    rw [readExpr_succ, Rest.peek_of_tokens hr]
    dsimp only
    rw [if_neg fun hc => c.upper_not_mem (List.mem_singleton.2 hc),
      if_pos (Rest.peek_ne_of_head? Token.noConfusion (hnext ▸ hus))]
    exact ⟨_, rfl, hnext⟩
  | cast k into hinner htype =>
    rw [Phrase.tokens] at hr hfuel
    simp only [List.cons_append, List.append_assoc, List.nil_append] at hr
    simp only [List.length_cons, List.length_append] at hfuel
    exact exists_readExpr_cast ih k hinner (by omega) into htype hr
  | call hps happlies =>
    rw [Phrase.tokens] at hr hfuel
    simp only [List.cons_append, List.append_assoc, List.nil_append] at hr
    simp only [List.length_cons, List.length_append] at hfuel
    exact exists_readExpr_call ihArgs _ hps happlies (by omega) hr

theorem readsArgs_succ (ih : ReadsPhrases fuel) (ihArgs : ReadsArgs fuel) :
    ReadsArgs (fuel + 1) := by
  intro ps es r us hne h hfuel hr
  rw [readArgs_succ]
  cases h with
  | nil => exact absurd rfl hne
  | @cons p e ps es hp hps =>
    rw [Phrase.argTokens_append] at hr
    by_cases hnil : ps = []
    · subst hnil
      cases hps
      rw [Phrase.argTokens] at hfuel
      rw [if_pos rfl] at hr
      obtain ⟨r₁, hread, hr₁⟩ := ih hp (Nat.lt_succ_iff.1 hfuel) hr (by simp)
      have hcomma : r₁.peek ≠ .comma := by
        rw [Rest.peek_of_tokens hr₁]
        exact Token.noConfusion
      rw [hread]
      exact ⟨r₁, if_neg hcomma, hr₁⟩
    · rw [Phrase.argTokens_cons p hnil, List.length_append, List.length_cons] at hfuel
      rw [if_neg hnil] at hr
      obtain ⟨r₁, hread, hr₁⟩ := ih hp (by omega) hr (by simp)
      obtain ⟨r₂, hrest, hr₂⟩ := ihArgs hnil hps (by omega) (Rest.tokens_next hr₁)
      rw [hread]
      refine ⟨r₂, ?_, hr₂⟩
      have hcomma := Rest.peek_of_tokens hr₁
      simp only [bind, Except.bind, if_pos hcomma, hrest, pure, Except.pure]

end

/-- Phrases are read, if there is a step for every token. -/
theorem reads_phrases (fuel : Nat) : ReadsPhrases fuel ∧ ReadsArgs fuel := by
  induction fuel with
  | zero =>
    refine ⟨@fun p e r us _ hfuel _ _ => ?_, @fun ps es r us _ _ hfuel _ => ?_⟩
    · obtain ⟨t, ts, htokens, -⟩ := p.exists_tokens_eq
      rw [htokens] at hfuel
      exact absurd hfuel (Nat.not_succ_le_zero _)
    · exact absurd hfuel (Nat.not_lt_zero _)
  | succ fuel ih => exact ⟨readsPhrases_succ ih.1 ih.2, readsArgs_succ ih.1 ih.2⟩

section

variable {r r' : Rest} {e : Expr} {us : List Token}

theorem expression_ok (h : expression r = .ok (e, r')) : ReadPhrase r e r' :=
  (read_phrases _).1 h

theorem expression_of_tokens {p : Phrase} (h : Denotes p e) (hr : r.tokens = p.tokens ++ us)
    (hus : us.head? ≠ some .openParen) : ∃ r', expression r = .ok (e, r') ∧ r'.tokens = us := by
  have hlength := congrArg List.length hr
  rw [Rest.tokens, List.length_map, List.length_append] at hlength
  exact (reads_phrases _).1 h (by omega) hr hus

end

end Quarantine.Expr
