import Quarantine.Expr.Parser

/-!
# The grammar of the rule notation

A phrase is a derivation of the grammar that the notation is documented by.  Its tokens are those
that it derives, and no two phrases derive the same ones.  What a phrase denotes is told rule by
rule: a cast is to a text, and a call is of a known function, with as many arguments as it takes,
and with a pattern that is written out and can be compiled.

    p.tokens          the tokens that the phrase p derives
    Denotes p e       e is the expression of the phrase p
    eq_of_tokens_eq   a phrase is known by its tokens

Names of functions and of the types of casts do not depend on the case of ASCII letters.
-/

namespace Quarantine.Expr

open Quarantine.Text Quarantine.Json

/-! ## Words -/

/-- A word that is one of some keywords, in any case of ASCII letters. -/
structure Keyword (keywords : List String) where
  word : String
  upper_mem : asciiUpper word ∈ keywords

/-- A word that is none of some keywords. -/
structure Bare (keywords : List String) where
  word : String
  upper_not_mem : asciiUpper word ∉ keywords

/-- A bare word, whichever it is, or a quoted name. -/
inductive Identifier where
  | word (s : String)
  | name (s : String)

namespace Identifier

def token : Identifier → Token
  | word s => .word s
  | name s => .name s

def text : Identifier → String
  | word s | name s => s

end Identifier

/-! ## Derivations -/

/-- A derivation of `expr`. -/
inductive Phrase where
  | text (s : String)
  | number (n : Natural63)
  | negative (n : Natural63)
  | null (keyword : Keyword ["NULL"])
  | cast (keyword : Keyword ["CAST"]) (inner : Phrase) (into : Keyword ["AS"])
    (target : Identifier)
  | call (function : Bare ["NULL", "CAST"]) (args : List Phrase)
  | word (column : Bare ["NULL"])
  | name (column : String)

namespace Phrase

mutual

def tokens : Phrase → List Token
  | text s => [.text s]
  | number n => [.number n]
  | negative n => [.minus, .number n]
  | null keyword => [.word keyword.word]
  | cast keyword inner into target =>
    .word keyword.word :: .openParen ::
      (inner.tokens ++ [.word into.word, target.token, .closeParen])
  | call function args => .word function.word :: .openParen :: (argTokens args ++ [.closeParen])
  | word c => [.word c.word]
  | name c => [.name c]

def argTokens : List Phrase → List Token
  | [] => []
  | [p] => p.tokens
  | p :: q :: rest => p.tokens ++ .comma :: argTokens (q :: rest)

end

end Phrase

/-- A derivation of `predicate`. -/
@[ext] structure PredicatePhrase where
  subject : Phrase
  negation : Option (Keyword ["NOT"])
  operator : Keyword ["REGEXP", "RLIKE"]
  enclosed : Bool
  pattern : String
  result : Option (Keyword ["AS"] × Identifier)

namespace PredicatePhrase

def negationTokens : Option (Keyword ["NOT"]) → List Token
  | none => []
  | some k => [.word k.word]

def patternTokens (enclosed : Bool) (pattern : String) : List Token :=
  if enclosed then [.openParen, .text pattern, .closeParen] else [.text pattern]

def resultTokens : Option (Keyword ["AS"] × Identifier) → List Token
  | none => []
  | some (k, i) => [.word k.word, i.token]

def tokens (d : PredicatePhrase) : List Token :=
  d.subject.tokens ++ (negationTokens d.negation ++ .word d.operator.word ::
    (patternTokens d.enclosed d.pattern ++ resultTokens d.result))

end PredicatePhrase

/-- A derivation of `redaction`. -/
@[ext] structure RedactionPhrase where
  value : Phrase
  into : Keyword ["AS"]
  target : Identifier

def RedactionPhrase.tokens (d : RedactionPhrase) : List Token :=
  d.value.tokens ++ [.word d.into.word, d.target.token]

/-! ## Denotations -/

/-- The expression that a function, by its name in lower case, makes of arguments. -/
inductive Applies : String → List Expr → Expr → Prop
  | concat {args : List Expr} (one : args ≠ []) : Applies "concat" args (.concat args)
  | substrFrom {f : String} (name : f ∈ ["substr", "substring"]) (s p : Expr) :
    Applies f [s, p] (.substrFrom s p)
  | substr {f : String} (name : f ∈ ["substr", "substring"]) (s p n : Expr) :
    Applies f [s, p, n] (.substr s p n)
  | regexpReplace {text : String} {pattern : Pattern}
    (compiles : Pattern.compile? text = some pattern) (s r : Expr) :
    Applies "regexp_replace" [s, .literal (.string text), r] (.regexpReplace s pattern r)
  | regexpExtractFirst {text : String} {pattern : Pattern}
    (compiles : Pattern.compile? text = some pattern) (s : Expr) :
    Applies "regexp_extract" [s, .literal (.string text)]
      (.regexpExtract s pattern (.literal (integerValue false 1)))
  | regexpExtract {text : String} {pattern : Pattern}
    (compiles : Pattern.compile? text = some pattern) (s g : Expr) :
    Applies "regexp_extract" [s, .literal (.string text), g] (.regexpExtract s pattern g)
  | upper (e : Expr) : Applies "upper" [e] (.upper e)
  | lower (e : Expr) : Applies "lower" [e] (.lower e)
  | sha2 (s b : Expr) : Applies "sha2" [s, b] (.sha2 s b)

mutual

/-- That the casts and calls of a phrase are admitted, and this is its expression. -/
inductive Denotes : Phrase → Expr → Prop
  | text (s : String) : Denotes (.text s) (.literal (.string s))
  | number (n : Natural63) : Denotes (.number n) (.literal (integerValue false n))
  | negative (n : Natural63) : Denotes (.negative n) (.literal (integerValue true n))
  | null (keyword : Keyword ["NULL"]) : Denotes (.null keyword) (.literal .null)
  | cast (keyword : Keyword ["CAST"]) (into : Keyword ["AS"]) {inner : Phrase} {e : Expr}
    {target : Identifier} (denotes : Denotes inner e)
    (type : asciiUpper target.text ∈ ["STRING", "VARCHAR"]) :
    Denotes (.cast keyword inner into target) (.castText e)
  | call {function : Bare ["NULL", "CAST"]} {args : List Phrase} {es : List Expr} {e : Expr}
    (denote : DenoteAll args es) (applies : Applies (asciiLower function.word) es e) :
    Denotes (.call function args) e
  | word (column : Bare ["NULL"]) : Denotes (.word column) (.column column.word)
  | name (column : String) : Denotes (.name column) (.column column)

/-- The same for arguments, one by one. -/
inductive DenoteAll : List Phrase → List Expr → Prop
  | nil : DenoteAll [] []
  | cons {p : Phrase} {e : Expr} {ps : List Phrase} {es : List Expr} (first : Denotes p e)
    (rest : DenoteAll ps es) : DenoteAll (p :: ps) (e :: es)

end

structure PredicatePhrase.Denotes (d : PredicatePhrase) (p : Predicate) : Prop where
  subject : Expr.Denotes d.subject p.subject
  pattern : Pattern.compile? d.pattern = some p.pattern
  negated : p.negated = d.negation.isSome

structure RedactionPhrase.Denotes (d : RedactionPhrase) (r : Redaction) : Prop where
  value : Expr.Denotes d.value r.expr
  target : r.target = d.target.text

/-! ## Unambiguity -/

theorem Identifier.token_injective {i j : Identifier} (h : i.token = j.token) : i = j := by
  cases i with
  | word s =>
    cases j with
    | word t => rw [Token.word.inj h]
    | name t => cases h
  | name s =>
    cases j with
    | word t => cases h
    | name t => rw [Token.name.inj h]

theorem Keyword.eq_of_word_eq {ks : List String} {k l : Keyword ks} (h : k.word = l.word) :
    k = l := by
  cases k
  cases l
  cases h
  rfl

theorem Bare.eq_of_word_eq {ks : List String} {b c : Bare ks} (h : b.word = c.word) : b = c := by
  cases b
  cases c
  cases h
  rfl

namespace Phrase

variable {p q : Phrase} {us vs : List Token}

theorem argTokens_cons (p : Phrase) {rest : List Phrase} (h : rest ≠ []) :
    argTokens (p :: rest) = p.tokens ++ .comma :: argTokens rest := by
  obtain ⟨q, rest, rfl⟩ := List.exists_cons_of_ne_nil h
  rw [argTokens]

/-- A phrase starts with a token that is no parenthesis. -/
theorem exists_tokens_eq (p : Phrase) :
    ∃ t ts, p.tokens = t :: ts ∧ t ≠ .openParen ∧ t ≠ .closeParen := by
  cases p
  all_goals
    rw [tokens]
    exact ⟨_, _, rfl, Token.noConfusion, Token.noConfusion⟩

/-- What the phrase of a word is, by what follows the word. -/
theorem exists_of_word {w : String} {ts : List Token} (h : p.tokens ++ us = .word w :: ts) :
    (∃ k, p = .null k ∧ k.word = w ∧ us = ts) ∨
      (∃ c, p = .word c ∧ c.word = w ∧ us = ts) ∨
      (∃ k inner into target more, p = .cast k inner into target ∧ k.word = w ∧
        ts = .openParen :: more) ∨
      (∃ f args more, p = .call f args ∧ f.word = w ∧ ts = .openParen :: more) := by
  cases p
  all_goals
    rw [tokens] at h
    cases h
  case null k => exact .inl ⟨k, rfl, rfl, rfl⟩
  case word c => exact .inr (.inl ⟨c, rfl, rfl, rfl⟩)
  case cast k inner into target =>
    exact .inr (.inr (.inl ⟨k, inner, into, target, _, rfl, rfl, rfl⟩))
  case call f args => exact .inr (.inr (.inr ⟨f, args, _, rfl, rfl, rfl⟩))

/-- Arguments are followed by a comma or by the parenthesis. -/
theorem argTokens_append (p : Phrase) (rest : List Phrase) (us : List Token) :
    argTokens (p :: rest) ++ .closeParen :: us =
      p.tokens ++ if rest = [] then .closeParen :: us
        else .comma :: (argTokens rest ++ .closeParen :: us) := by
  cases rest with
  | nil => rw [if_pos rfl, argTokens]
  | cons q rest =>
    rw [argTokens, if_neg (List.cons_ne_nil q rest), List.append_assoc, List.cons_append]

mutual

/-- No two phrases start the same tokens, unless what follows makes a call of a word. -/
theorem eq_of_append_eq (p q : Phrase) {us vs : List Token}
    (h : p.tokens ++ us = q.tokens ++ vs) (hus : us.head? ≠ some .openParen)
    (hvs : vs.head? ≠ some .openParen) : p = q ∧ us = vs := by
  cases p with
  | text s | number n | negative n | name s =>
    cases q
    all_goals
      rw [tokens, tokens] at h
      cases h
    exact ⟨rfl, rfl⟩
  | null k =>
    obtain ⟨k', rfl, hk, hts⟩ | ⟨c, rfl, hc, -⟩ | ⟨-, -, -, -, more, -, -, hts⟩ |
      ⟨-, -, more, -, -, hts⟩ := exists_of_word h.symm
    · exact ⟨congrArg null (Keyword.eq_of_word_eq hk.symm), hts.symm⟩
    · exact absurd (hc ▸ k.upper_mem) c.upper_not_mem
    · exact absurd (congrArg List.head? hts) hus
    · exact absurd (congrArg List.head? hts) hus
  | word c =>
    obtain ⟨k, rfl, hk, -⟩ | ⟨c', rfl, hc, hts⟩ | ⟨-, -, -, -, more, -, -, hts⟩ |
      ⟨-, -, more, -, -, hts⟩ := exists_of_word h.symm
    · exact absurd (hk ▸ k.upper_mem) c.upper_not_mem
    · exact ⟨congrArg word (Bare.eq_of_word_eq hc.symm), hts.symm⟩
    · exact absurd (congrArg List.head? hts) hus
    · exact absurd (congrArg List.head? hts) hus
  | cast k inner into target =>
    rw [tokens] at h
    obtain ⟨-, rfl, -, rfl⟩ | ⟨-, rfl, -, rfl⟩ | ⟨k', inner', into', target', -, rfl, hk, -⟩ |
      ⟨f, args, more, rfl, hf, -⟩ := exists_of_word h.symm
    · exact absurd rfl hvs
    · exact absurd rfl hvs
    · simp only [tokens, List.cons_append, List.append_assoc, List.cons.injEq, true_and] at h
      obtain ⟨rfl, htail⟩ := inner.eq_of_append_eq inner' h.2 (by simp) (by simp)
      obtain ⟨hinto, htail⟩ := List.cons.inj htail
      obtain ⟨htarget, htail⟩ := List.cons.inj htail
      rw [Keyword.eq_of_word_eq hk, Keyword.eq_of_word_eq (Token.word.inj hinto),
        Identifier.token_injective htarget]
      exact ⟨rfl, (List.cons.inj htail).2⟩
    · refine absurd ?_ f.upper_not_mem
      rw [hf]
      exact List.mem_cons_of_mem _ k.upper_mem
  | call f args =>
    rw [tokens] at h
    obtain ⟨-, rfl, -, rfl⟩ | ⟨-, rfl, -, rfl⟩ | ⟨k, inner, into, target, -, rfl, hk, -⟩ |
      ⟨f', args', more, rfl, hf, -⟩ := exists_of_word h.symm
    · exact absurd rfl hvs
    · exact absurd rfl hvs
    · refine absurd ?_ f.upper_not_mem
      rw [← hk]
      exact List.mem_cons_of_mem _ k.upper_mem
    · simp only [tokens, List.cons_append, List.append_assoc, List.cons.injEq, true_and] at h
      obtain ⟨rfl, htail⟩ := args_eq_of_append_eq args args' h.2
      rw [Bare.eq_of_word_eq hf]
      exact ⟨rfl, htail⟩

theorem args_eq_of_append_eq (ps qs : List Phrase) {us vs : List Token}
    (h : argTokens ps ++ .closeParen :: us = argTokens qs ++ .closeParen :: vs) :
    ps = qs ∧ us = vs := by
  cases ps with
  | nil =>
    cases qs with
    | nil => exact ⟨rfl, (List.cons.inj h).2⟩
    | cons q qs =>
      obtain ⟨t, ts, hq, -, ht⟩ := q.exists_tokens_eq
      rw [argTokens_append, hq] at h
      exact absurd (List.cons.inj h).1.symm ht
  | cons p ps =>
    cases qs with
    | nil =>
      obtain ⟨t, ts, hp, -, ht⟩ := p.exists_tokens_eq
      rw [argTokens_append, hp] at h
      exact absurd (List.cons.inj h).1 ht
    | cons q qs =>
      rw [argTokens_append, argTokens_append] at h
      obtain ⟨rfl, htail⟩ := p.eq_of_append_eq q h (by split <;> simp) (by split <;> simp)
      split at htail
      · next hps =>
        split at htail
        · next hqs => exact ⟨by rw [hps, hqs], (List.cons.inj htail).2⟩
        · cases htail
      · split at htail
        · cases htail
        · obtain ⟨rfl, rfl⟩ := args_eq_of_append_eq ps qs (List.cons.inj htail).2
          exact ⟨rfl, rfl⟩

end

end Phrase

/-- The tokens of a redaction are those of one derivation. -/
theorem RedactionPhrase.eq_of_tokens_eq {d d' : RedactionPhrase} (h : d.tokens = d'.tokens) :
    d = d' := by
  obtain ⟨hvalue, htail⟩ := d.value.eq_of_append_eq d'.value h (by simp) (by simp)
  obtain ⟨hinto, htail⟩ := List.cons.inj htail
  exact RedactionPhrase.ext hvalue (Keyword.eq_of_word_eq (Token.word.inj hinto))
    (Identifier.token_injective (List.cons.inj htail).1)

namespace PredicatePhrase

/-- The operator is told apart from the negation. -/
theorem negation_eq_of_append_eq {n n' : Option (Keyword ["NOT"])}
    {o o' : Keyword ["REGEXP", "RLIKE"]} {us vs : List Token}
    (h : negationTokens n ++ .word o.word :: us = negationTokens n' ++ .word o'.word :: vs) :
    n = n' ∧ o = o' ∧ us = vs := by
  have hne (k : Keyword ["NOT"]) (o : Keyword ["REGEXP", "RLIKE"]) : k.word ≠ o.word := by
    intro he
    have hk := List.mem_singleton.1 k.upper_mem
    have ho := o.upper_mem
    rw [← he, hk] at ho
    revert ho
    decide
  cases n with
  | none =>
    cases n' with
    | none =>
      obtain ⟨ho, htail⟩ := List.cons.inj h
      exact ⟨rfl, Keyword.eq_of_word_eq (Token.word.inj ho), htail⟩
    | some k => exact absurd (Token.word.inj (List.cons.inj h).1).symm (hne k o)
  | some k =>
    cases n' with
    | none => exact absurd (Token.word.inj (List.cons.inj h).1) (hne k o')
    | some k' =>
      obtain ⟨hk, htail⟩ := List.cons.inj h
      obtain ⟨ho, htail⟩ := List.cons.inj htail
      rw [Keyword.eq_of_word_eq (Token.word.inj hk)]
      exact ⟨rfl, Keyword.eq_of_word_eq (Token.word.inj ho), htail⟩

theorem pattern_eq_of_append_eq {e e' : Bool} {s s' : String} {us vs : List Token}
    (h : patternTokens e s ++ us = patternTokens e' s' ++ vs) : e = e' ∧ s = s' ∧ us = vs := by
  cases e <;> cases e' <;> cases h <;> exact ⟨rfl, rfl, rfl⟩

theorem result_eq_of_tokens_eq {r r' : Option (Keyword ["AS"] × Identifier)}
    (h : resultTokens r = resultTokens r') : r = r' := by
  rcases r with _ | ⟨k, i⟩
  · rcases r' with _ | ⟨k', i'⟩
    · rfl
    · cases h
  · rcases r' with _ | ⟨k', i'⟩
    · cases h
    · obtain ⟨hk, htail⟩ := List.cons.inj h
      rw [Keyword.eq_of_word_eq (Token.word.inj hk),
        Identifier.token_injective (List.cons.inj htail).1]

/-- The tokens of a predicate are those of one derivation. -/
theorem eq_of_tokens_eq {d d' : PredicatePhrase} (h : d.tokens = d'.tokens) : d = d' := by
  have hhead (n : Option (Keyword ["NOT"])) (o : Keyword ["REGEXP", "RLIKE"]) (us : List Token) :
      (negationTokens n ++ .word o.word :: us).head? ≠ some .openParen := by
    cases n <;> simp [negationTokens]
  obtain ⟨hsubject, htail⟩ := d.subject.eq_of_append_eq d'.subject h
    (hhead _ _ _) (hhead _ _ _)
  obtain ⟨hnegation, hoperator, htail⟩ := negation_eq_of_append_eq htail
  obtain ⟨henclosed, hpattern, htail⟩ := pattern_eq_of_append_eq htail
  exact PredicatePhrase.ext hsubject hnegation hoperator henclosed hpattern
    (result_eq_of_tokens_eq htail)

end PredicatePhrase

end Quarantine.Expr
