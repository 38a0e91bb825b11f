import Quarantine.Proofs.Expr.Spans

/-!
# Places of faults

Reading looks at tokens, one after the other, and at nothing else.  Texts with the same tokens are
read to the same result, or they are refused for the same fault, after as many tokens in both.

A fault that names a token names it after it was taken: the place that is told is that of the token
behind it.  Only a token that is left over when all is read is told with its own place.

    Told r r' e e'                        the same error, told after as many tokens of r and of r'
    read_told                             expressions and arguments
    parsePredicate_told                   a predicate, and a redaction
    place_of_taken, place_of_trailing     the place of a fault against the token that it names
    lossless_of_tokens                    what a text is made of, and what blanks change
-/

namespace Quarantine

open Quarantine.Expr Quarantine.Text

/-! ## Places as counts of tokens -/

namespace Expr.Rest

/-- What is left after some tokens more. -/
def skip (r : Rest) (k : Nat) : Rest := { r with lexemes := r.lexemes.drop k }

variable {r r' : Rest}

@[simp] theorem next_skip (r : Rest) (k : Nat) : (r.skip k).next = r.skip (k + 1) := by
  rw [next, skip, skip, List.drop_drop]

theorem tokens_skip (r : Rest) (k : Nat) : (r.skip k).tokens = r.tokens.drop k :=
  List.map_drop

theorem length_skip (r : Rest) (k : Nat) :
    (r.skip k).lexemes.length = r.lexemes.length - k := List.length_drop

theorem peek_eq (r : Rest) : r.peek = r.tokens.headD .stop := by
  obtain ⟨lexemes, stop⟩ := r
  cases lexemes <;> rfl

/-- Where a token is seen that is not the end, there is one. -/
theorem lt_of_peek_skip {k : Nat} {t : Token} (h : (r.skip k).peek = t) (ht : t ≠ .stop) :
    k < r.lexemes.length := by
  have htokens := congrArg List.length (tokens_of_peek h ht)
  rw [tokens, List.length_map, length_skip, List.length_cons] at htokens
  omega

theorem peek_skip_congr (h : r'.tokens = r.tokens) (k : Nat) :
    (r'.skip k).peek = (r.skip k).peek := by
  rw [peek_eq, peek_eq, tokens_skip, tokens_skip, h]

theorem isKeyword_skip_congr (h : r'.tokens = r.tokens) (k : Nat) (s : String) :
    (r'.skip k).isKeyword s = (r.skip k).isKeyword s := by
  rw [isKeyword, isKeyword, peek_skip_congr h]

end Expr.Rest

/-- Where a token is that a fault names: it is the last of `k` tokens that were taken, or, if it is
left over, the one after them. -/
def SyntaxFault.Names (fault : SyntaxFault) (r : Rest) (k : Nat) : Prop :=
  match fault with
  | unexpected t | noIdentifier t => ∃ j, k = j + 1 ∧ (r.skip j).peek = t
  | trailing t => t ≠ .stop ∧ (r.skip k).peek = t
  | _ => True

namespace Expr

/-- That two errors are the same, and a fault of the text is told after as many tokens. -/
inductive Told (r r' : Rest) : ExprError → ExprError → Prop
  | fault {k : Nat} {fault : SyntaxFault} (names : fault.Names r k) :
    Told r r' (.syntaxFault (r.skip k).offset fault) (.syntaxFault (r'.skip k).offset fault)
  | other {e : ExprError} (h : ∀ o f, e ≠ .syntaxFault o f) : Told r r' e e

/-- That as many tokens are taken from two readings, `k` at least. -/
def Reached (r r' : Rest) (k : Nat) (a b : Rest) : Prop := ∃ j, k ≤ j ∧ a = r.skip j ∧ b = r'.skip j

/-- That the same is read, and as many tokens are taken. -/
def ReachedWith {α : Type} (r r' : Rest) (k : Nat) (a b : α × Rest) : Prop :=
  b.1 = a.1 ∧ Reached r r' k a.2 b.2

section

variable {r r' : Rest} {k : Nat}

theorem Reached.of_le {j : Nat} {a b : Rest} (h : Reached r r' j a b) (hkj : k ≤ j) :
    Reached r r' k a b := by
  obtain ⟨i, hi, ha, hb⟩ := h
  exact ⟨i, Nat.le_trans hkj hi, ha, hb⟩

theorem reached_skip (r r' : Rest) (k : Nat) : Reached r r' k (r.skip k) (r'.skip k) :=
  ⟨k, Nat.le_refl k, rfl, rfl⟩

theorem reached_next (r r' : Rest) (k : Nat) : Reached r r' k (r.skip k).next (r'.skip k).next := by
  rw [Rest.next_skip, Rest.next_skip]
  exact (reached_skip r r' (k + 1)).of_le (Nat.le_succ k)

theorem fail_told {α : Type} {R : α → α → Prop} {fault : SyntaxFault} (h : fault.Names r k) :
    Alike (Told r r') R ((r.skip k).fail fault) ((r'.skip k).fail fault) :=
  .error (.fault h)

/-- What does not look at the text fails alike for both. -/
theorem same_told {α : Type} {x : Except ExprError α}
    (h : ∀ o f, x ≠ .error (.syntaxFault o f)) : Alike (Told r r') Eq x x := by
  cases x with
  | ok a => exact .ok rfl
  | error e => exact .error (.other fun o f he => h o f (he ▸ rfl))

/-! ## Casts and calls -/

theorem patternOf_ne_fault (text : String) (o : Nat) (f : SyntaxFault) :
    patternOf text ≠ .error (.syntaxFault o f) := by
  unfold patternOf
  split <;> nofun

theorem literalPattern_ne_fault (function : String) (e : Expr) (o : Nat) (f : SyntaxFault) :
    literalPattern function e ≠ .error (.syntaxFault o f) := by
  unfold literalPattern
  split
  · exact patternOf_ne_fault _ o f
  · nofun

theorem cast_ne_fault (target : String) (e : Expr) (o : Nat) (f : SyntaxFault) :
    cast target e ≠ .error (.syntaxFault o f) := by
  unfold cast
  split <;> nofun

theorem call_ne_fault (name : String) (args : List Expr) (o : Nat) (f : SyntaxFault) :
    call name args ≠ .error (.syntaxFault o f) := by
  have hmap {function : String} {e : Expr} (g : Pattern → Expr) :
      (literalPattern function e).map g ≠ .error (.syntaxFault o f) := by
    have hne := literalPattern_ne_fault function e o f
    cases hp : literalPattern function e with
    | ok p => nofun
    | error err =>
      intro h
      rw [hp] at hne
      exact hne (congrArg Except.error (Except.error.inj h))
  unfold call
  dsimp only
  split
  case h_4 | h_5 =>
    split
    all_goals first | exact hmap _ | nofun
  case h_9 => nofun
  all_goals split <;> nofun

/-! ## Single steps -/

section

variable (h : r'.tokens = r.tokens) (k : Nat)

include h

theorem keyword_told (s : String) :
    Alike (Told r r') (Reached r r' k) ((r.skip k).keyword s) ((r'.skip k).keyword s) := by
  unfold Rest.keyword
  rw [Rest.isKeyword_skip_congr h]
  split
  · exact .ok (reached_next r r' k)
  · exact fail_told trivial

theorem closeParen_told :
    Alike (Told r r') (Reached r r' k) (r.skip k).closeParen (r'.skip k).closeParen := by
  unfold Rest.closeParen
  rw [Rest.peek_skip_congr h]
  split
  · exact .ok (reached_next r r' k)
  · exact fail_told trivial

theorem identifier_told :
    Alike (Told r r') (ReachedWith r r' k) (r.skip k).identifier (r'.skip k).identifier := by
  unfold Rest.identifier
  rw [Rest.peek_skip_congr h]
  cases hpeek : (r.skip k).peek with
  | word s | name s => exact .ok ⟨rfl, reached_next r r' k⟩
  | _ =>
    dsimp only
    rw [Rest.next_skip, Rest.next_skip]
    exact fail_told ⟨k, rfl, hpeek⟩

theorem finished_told :
    Alike (Told r r') (fun _ _ => True) (r.skip k).finished (r'.skip k).finished := by
  unfold Rest.finished
  rw [Rest.peek_skip_congr h]
  cases hpeek : (r.skip k).peek with
  | stop => exact .ok trivial
  | _ => exact fail_told ⟨Token.noConfusion, hpeek⟩

theorem afterNegation_reached :
    Reached r r' k (r.skip k).afterNegation (r'.skip k).afterNegation := by
  unfold Rest.afterNegation
  rw [Rest.isKeyword_skip_congr h]
  split
  · exact reached_next r r' k
  · exact reached_skip r r' k

theorem operator_told :
    Alike (Told r r') (Reached r r' k) (r.skip k).operator (r'.skip k).operator := by
  unfold Rest.operator
  rw [Rest.isKeyword_skip_congr h, Rest.isKeyword_skip_congr h]
  split
  · exact .ok (reached_next r r' k)
  · exact fail_told trivial

theorem result_told :
    Alike (Told r r') (Reached r r' k) (r.skip k).result (r'.skip k).result := by
  unfold Rest.result
  rw [Rest.isKeyword_skip_congr h]
  split
  · rw [Rest.next_skip, Rest.next_skip]
    exact (identifier_told h (k + 1)).map fun hab => hab.2.of_le (Nat.le_succ k)
  · exact .ok (reached_skip r r' k)

/-- A text that is written out, and what is made of it. -/
theorem text_told {α : Type} {R : α → α → Prop} {f f' : String → Except ExprError α}
    (hf : ∀ s, Alike (Told r r') R (f s) (f' s)) :
    Alike (Told r r') R
      (match (r.skip k).peek with | .text s => f s | _ => (r.skip (k + 1)).fail .noPattern)
      (match (r'.skip k).peek with | .text s => f' s | _ => (r'.skip (k + 1)).fail .noPattern) := by
  rw [Rest.peek_skip_congr h]
  cases (r.skip k).peek with
  | text s => exact hf s
  | _ => exact fail_told trivial

theorem patternText_told :
    Alike (Told r r') (ReachedWith r r' k) (patternText (r.skip k)) (patternText (r'.skip k)) := by
  have hopen := Rest.peek_skip_congr h k
  by_cases hpeek : (r.skip k).peek = .openParen
  · rw [patternText_of_open hpeek, patternText_of_open (hopen.trans hpeek)]
    simp only [Rest.next_skip]
    refine text_told h (k + 1) fun s => (closeParen_told h (k + 2)).map fun hab => ?_
    exact ⟨rfl, hab.of_le (Nat.le_add_right k 2)⟩
  · have hpeek' : (r'.skip k).peek ≠ .openParen := fun hp => hpeek (hopen.symm.trans hp)
    rw [patternText_of_not_open hpeek, patternText_of_not_open hpeek']
    simp only [Rest.next_skip]
    exact text_told h k fun s => .ok ⟨rfl, (reached_skip r r' (k + 1)).of_le (Nat.le_succ k)⟩

/-! ## Expressions -/

/-- The end of a cast, after the expression that it casts. -/
theorem castEnd_told (inner : Expr) :
    Alike (Told r r') (ReachedWith r r' k)
      (do
        let r₂ ← (r.skip k).keyword "AS"
        let (target, r₃) ← r₂.identifier
        let r₄ ← r₃.closeParen
        return (← cast target inner, r₄))
      (do
        let r₂ ← (r'.skip k).keyword "AS"
        let (target, r₃) ← r₂.identifier
        let r₄ ← r₃.closeParen
        return (← cast target inner, r₄)) := by
  refine (keyword_told h k "AS").bind fun _ _ ⟨i, hki, hi, hi'⟩ => ?_
  subst hi hi'
  refine (identifier_told h i).bind fun {a b} _ _ htarget => ?_
  obtain ⟨target, _⟩ := a
  obtain ⟨target', _⟩ := b
  obtain ⟨rfl : target' = target, j, hij, rfl, rfl⟩ := htarget
  refine (closeParen_told h j).bind fun _ _ hclose => ?_
  refine (same_told (cast_ne_fault target' inner)).bind fun _ _ he => ?_
  exact .ok ⟨he.symm, hclose.of_le (Nat.le_trans hki hij)⟩

/-- The end of a call, after its arguments. -/
theorem callEnd_told (name : String) (args : List Expr) :
    Alike (Told r r') (ReachedWith r r' k)
      (do
        let r₂ ← (r.skip k).closeParen
        return (← call name args, r₂))
      (do
        let r₂ ← (r'.skip k).closeParen
        return (← call name args, r₂)) := by
  refine (closeParen_told h k).bind fun _ _ hclose => ?_
  refine (same_told (call_ne_fault name args)).bind fun _ _ he => ?_
  exact .ok ⟨he.symm, hclose⟩

end

/-- That an expression is read alike from any token on, in so many steps. -/
def ReadTold (r r' : Rest) (fuel : Nat) : Prop :=
  ∀ k, r.lexemes.length - k < fuel →
    Alike (Told r r') (ReachedWith r r' k) (readExpr fuel (r.skip k)) (readExpr fuel (r'.skip k))

def ReadArgsTold (r r' : Rest) (fuel : Nat) : Prop :=
  ∀ k, r.lexemes.length - k + 1 < fuel →
    Alike (Told r r') (ReachedWith r r' k) (readArgs fuel (r.skip k)) (readArgs fuel (r'.skip k))

theorem ReachedWith.of_le {α : Type} {j : Nat} {a b : α × Rest} (h : ReachedWith r r' j a b)
    (hkj : k ≤ j) : ReachedWith r r' k a b := ⟨h.1, h.2.of_le hkj⟩

variable (h : r'.tokens = r.tokens) {fuel : Nat}

include h

/-- A word, and what comes after it. -/
theorem readWord_told (ih : ReadTold r r' fuel) (ihArgs : ReadArgsTold r r' fuel) {s : String}
    (hpeek : (r.skip k).peek = .word s) (hfuel : r.lexemes.length - k ≤ fuel) :
    Alike (Told r r') (ReachedWith r r' k) (readExpr (fuel + 1) (r.skip k))
      (readExpr (fuel + 1) (r'.skip k)) := by
  have hword := Rest.lt_of_peek_skip hpeek Token.noConfusion
  have hcolumn (e : Expr) : ReachedWith r r' k (e, r.skip (k + 1)) (e, r'.skip (k + 1)) :=
    ⟨rfl, (reached_skip r r' (k + 1)).of_le (Nat.le_succ k)⟩
  rw [readExpr_succ, readExpr_succ, Rest.peek_skip_congr h, hpeek]
  simp only [Rest.next_skip, Rest.peek_skip_congr h]
  by_cases hnull : Text.asciiUpper s = "NULL"
  · rw [if_pos hnull, if_pos hnull]
    exact .ok (hcolumn _)
  rw [if_neg hnull, if_neg hnull]
  by_cases hopen : (r.skip (k + 1)).peek = .openParen
  · have hparen := Rest.lt_of_peek_skip hopen Token.noConfusion
    rw [if_neg (Decidable.not_not.2 hopen), if_neg (Decidable.not_not.2 hopen)]
    by_cases hcast : Text.asciiUpper s = "CAST"
    · rw [if_pos hcast, if_pos hcast]
      refine (ih (k + 2) (by omega)).bind fun {a b} _ _ hread => ?_
      obtain ⟨inner, _⟩ := a
      obtain ⟨inner', _⟩ := b
      obtain ⟨rfl : inner' = inner, j, hkj, rfl, rfl⟩ := hread
      exact (castEnd_told h j inner').mono fun hab => hab.of_le (by omega)
    · rw [if_neg hcast, if_neg hcast]
      by_cases hempty : (r.skip (k + 2)).peek = .closeParen
      · rw [if_pos hempty, if_pos hempty]
        exact (callEnd_told h (k + 2) s []).mono fun hab => hab.of_le (by omega)
      · rw [if_neg hempty, if_neg hempty]
        refine (ihArgs (k + 2) (by omega)).bind fun {a b} _ _ hread => ?_
        obtain ⟨args, _⟩ := a
        obtain ⟨args', _⟩ := b
        obtain ⟨rfl : args' = args, j, hkj, rfl, rfl⟩ := hread
        exact (callEnd_told h j s args').mono fun hab => hab.of_le (by omega)
  · rw [if_pos hopen, if_pos hopen]
    exact .ok (hcolumn _)

theorem readTold_succ (ih : ReadTold r r' fuel) (ihArgs : ReadArgsTold r r' fuel) :
    ReadTold r r' (fuel + 1) := by
  intro k hfuel
  cases hpeek : (r.skip k).peek with
  | word s => exact readWord_told h ih ihArgs hpeek (Nat.lt_succ_iff.1 hfuel)
  | text s | number n | name s =>
    rw [readExpr_succ, readExpr_succ, Rest.peek_skip_congr h, hpeek]
    exact .ok ⟨rfl, reached_next r r' k⟩
  | minus =>
    rw [readExpr_succ, readExpr_succ, Rest.peek_skip_congr h, hpeek]
    simp only [Rest.next_skip, Rest.peek_skip_congr h]
    cases (r.skip (k + 1)).peek with
    | number n => exact .ok ⟨rfl, (reached_skip r r' (k + 2)).of_le (by omega)⟩
    | _ => exact fail_told trivial
  | _ =>
    rw [readExpr_succ, readExpr_succ, Rest.peek_skip_congr h, hpeek]
    dsimp only
    rw [Rest.next_skip, Rest.next_skip]
    exact fail_told ⟨k, rfl, hpeek⟩

theorem readArgsTold_succ (ih : ReadTold r r' fuel) (ihArgs : ReadArgsTold r r' fuel) :
    ReadArgsTold r r' (fuel + 1) := by
  intro k hfuel
  rw [readArgs_succ, readArgs_succ]
  refine (ih k (by omega)).bind fun {a b} _ _ hread => ?_
  obtain ⟨e, _⟩ := a
  obtain ⟨e', _⟩ := b
  obtain ⟨rfl : e' = e, i, hki, rfl, rfl⟩ := hread
  dsimp only
  rw [Rest.peek_skip_congr h]
  by_cases hcomma : (r.skip i).peek = .comma
  · have hlt := Rest.lt_of_peek_skip hcomma Token.noConfusion
    rw [if_pos hcomma, if_pos hcomma, Rest.next_skip, Rest.next_skip]
    refine (ihArgs (i + 1) (by omega)).bind fun {a b} _ _ hread => ?_
    obtain ⟨hargs, hreached⟩ := hread
    exact .ok ⟨congrArg (e' :: ·) hargs, hreached.of_le (by omega)⟩
  · rw [if_neg hcomma, if_neg hcomma]
    exact .ok ⟨rfl, i, hki, rfl, rfl⟩

theorem read_told (fuel : Nat) : ReadTold r r' fuel ∧ ReadArgsTold r r' fuel := by
  induction fuel with
  | zero => exact ⟨fun _ hfuel => absurd hfuel (Nat.not_lt_zero _),
      fun _ hfuel => absurd hfuel (Nat.not_lt_zero _)⟩
  | succ fuel ih => exact ⟨readTold_succ h ih.1 ih.2, readArgsTold_succ h ih.1 ih.2⟩

theorem expression_told :
    Alike (Told r r') (ReachedWith r r' 0) (expression r) (expression r') := by
  have hlength := congrArg List.length h
  rw [Rest.tokens, Rest.tokens, List.length_map, List.length_map] at hlength
  unfold expression
  rw [hlength]
  exact (read_told h _).1 0 (by omega)

end

/-! ## Predicates and redactions -/

section

variable {text text' : String} {r r' : Rest}

theorem parsePredicate_told (hr : start text = .ok r) (hr' : start text' = .ok r')
    (h : r'.tokens = r.tokens) :
    Alike (Told r r') Eq (parsePredicate text) (parsePredicate text') := by
  rw [parsePredicate_eq, parsePredicate_eq, hr, hr']
  refine (expression_told h).bind fun {a b} _ _ hread => ?_
  obtain ⟨subject, _⟩ := a
  obtain ⟨subject', _⟩ := b
  obtain ⟨rfl : subject' = subject, i, -, rfl, rfl⟩ := hread
  dsimp only
  rw [Rest.isKeyword_skip_congr h]
  obtain ⟨j, -, hj, hj'⟩ := afterNegation_reached h i
  rw [hj, hj']
  refine (operator_told h j).bind fun _ _ ⟨k, _, hk, hk'⟩ => ?_
  subst hk hk'
  refine (patternText_told h k).bind fun {a b} _ _ hread => ?_
  obtain ⟨source, _⟩ := a
  obtain ⟨source', _⟩ := b
  obtain ⟨rfl : source' = source, l, -, rfl, rfl⟩ := hread
  refine (same_told (patternOf_ne_fault source')).bind fun _ _ hpattern => ?_
  refine (result_told h l).bind fun _ _ ⟨m, _, hm, hm'⟩ => ?_
  subst hm hm'
  exact (finished_told h m).bind fun _ _ _ => .ok (by rw [hpattern])

theorem parseRedaction_told (hr : start text = .ok r) (hr' : start text' = .ok r')
    (h : r'.tokens = r.tokens) :
    Alike (Told r r') Eq (parseRedaction text) (parseRedaction text') := by
  unfold parseRedaction
  rw [hr, hr']
  refine (expression_told h).bind fun {a b} _ _ hread => ?_
  obtain ⟨value, _⟩ := a
  obtain ⟨value', _⟩ := b
  obtain ⟨rfl : value' = value, i, -, rfl, rfl⟩ := hread
  refine (keyword_told h i "AS").bind fun _ _ ⟨j, _, hj, hj'⟩ => ?_
  subst hj hj'
  refine (identifier_told h j).bind fun {a b} _ _ hread => ?_
  obtain ⟨target, _⟩ := a
  obtain ⟨target', _⟩ := b
  obtain ⟨rfl : target' = target, k, -, rfl, rfl⟩ := hread
  exact (finished_told h k).bind fun _ _ _ => .ok rfl

/-! ## The place of a fault -/

section

variable {ls : List Lexeme} {stop o : Nat} {fault : SyntaxFault}

theorem offsets_ascend (htext : tokens text = .ok (ls, stop)) :
    (ls.map Lexeme.offset ++ [stop]).Pairwise (· < ·) := by
  obtain ⟨spans, hlaid, rfl, rfl⟩ := laid_of_tokens htext
  exact hlaid.offsets_ascend

theorem names_of_fault (htext : tokens text = .ok (ls, stop))
    (h : parsePredicate text = .error (.syntaxFault o fault) ∨
      parseRedaction text = .error (.syntaxFault o fault)) :
    ∃ k, fault.Names ⟨ls, stop⟩ k ∧ o = ((⟨ls, stop⟩ : Rest).skip k).offset := by
  have hstart : start text = .ok ⟨ls, stop⟩ := by rw [start, htext]
  have hself {α : Type} {x : Except ExprError α}
      (halike : Alike (Told ⟨ls, stop⟩ ⟨ls, stop⟩) Eq x x)
      (hx : x = .error (.syntaxFault o fault)) :
      Told ⟨ls, stop⟩ ⟨ls, stop⟩ (.syntaxFault o fault) (.syntaxFault o fault) := by
    subst hx
    obtain ⟨e, he, htold⟩ := halike.exists_of_error
    exact Except.error.inj he ▸ htold
  have htold := h.elim (hself (parsePredicate_told hstart hstart rfl))
    (hself (parseRedaction_told hstart hstart rfl))
  generalize he : ExprError.syntaxFault o fault = e at htold
  cases htold with
  | fault names =>
    obtain ⟨rfl, rfl⟩ := ExprError.syntaxFault.inj he
    exact ⟨_, names, rfl⟩
  | other hother => exact absurd he.symm (hother o fault)

/-- A token that was taken is told with the place of what stands behind it, which is never its own.
At the end of the text, there is nothing behind. -/
theorem place_of_taken {t : Token} (hfault : fault = .unexpected t ∨ fault = .noIdentifier t)
    (htext : tokens text = .ok (ls, stop))
    (h : parsePredicate text = .error (.syntaxFault o fault) ∨
      parseRedaction text = .error (.syntaxFault o fault)) :
    (t = .stop ∧ o = stop) ∨ ∃ before l after, ls = before ++ l :: after ∧ l.token = t ∧
      o = after.head?.elim stop Lexeme.offset ∧ l.offset < o := by
  obtain ⟨k, hnames, ho⟩ := names_of_fault htext h
  obtain ⟨j, rfl, hpeek⟩ : ∃ j, k = j + 1 ∧ ((⟨ls, stop⟩ : Rest).skip j).peek = t := by
    rcases hfault with rfl | rfl <;> exact hnames
  rw [Rest.skip, ← List.drop_drop] at ho
  rw [Rest.skip] at hpeek
  cases hdrop : ls.drop j with
  | nil =>
    rw [hdrop] at hpeek ho
    exact .inl ⟨hpeek.symm, ho⟩
  | cons l after =>
    rw [hdrop] at hpeek ho
    have hls := List.take_append_drop j ls
    rw [hdrop] at hls
    have hplace : o = after.head?.elim stop Lexeme.offset := by
      rw [ho]
      cases after <;> rfl
    refine .inr ⟨ls.take j, l, after, hls.symm, hpeek, hplace, ?_⟩
    have hascend := offsets_ascend htext
    rw [← hls, List.map_append, List.append_assoc, List.map_cons, List.cons_append] at hascend
    refine (List.pairwise_cons.1 (List.pairwise_append.1 hascend).2.1).1 o ?_
    rw [hplace]
    cases after with
    | nil => exact List.mem_singleton.2 rfl
    | cons m after => exact List.mem_cons_self

-- The bracket is byte 10.
example : parseRedaction "substr(c, ) AS c" = .error (.syntaxFault 12 (.unexpected .closeParen)) :=
  rfl

/-- A token that is left over is told with its own place. -/
theorem place_of_trailing {t : Token} (htext : tokens text = .ok (ls, stop))
    (h : parsePredicate text = .error (.syntaxFault o (.trailing t)) ∨
      parseRedaction text = .error (.syntaxFault o (.trailing t))) :
    ⟨o, t⟩ ∈ ls := by
  obtain ⟨k, ⟨ht, hpeek⟩, ho⟩ := names_of_fault htext h
  rw [Rest.skip] at hpeek ho
  cases hdrop : ls.drop k with
  | nil =>
    rw [hdrop] at hpeek
    exact absurd hpeek.symm ht
  | cons l after =>
    rw [hdrop] at hpeek ho
    have hmem : l ∈ ls.drop k := hdrop ▸ List.mem_cons_self
    obtain rfl : t = l.token := hpeek.symm
    exact ho ▸ List.mem_of_mem_drop hmem

end

end

/-! ## Blanks put in -/

/-- That two errors are the same, but for the place that they tell. -/
inductive Displaced : ExprError → ExprError → Prop
  | fault (o o' : Nat) (fault : SyntaxFault) :
    Displaced (.syntaxFault o fault) (.syntaxFault o' fault)
  | refl (e : ExprError) : Displaced e e

theorem Told.displaced {r r' : Rest} {e e' : ExprError} (h : Told r r' e e') : Displaced e e' := by
  cases h with
  | fault => exact .fault _ _ _
  | other => exact .refl _

section

variable {text text' : String} {ts : List Token}

/-- Texts with the same tokens are read to the same, or refused for the same. -/
theorem HasTokens.alike (h : HasTokens text ts) (h' : HasTokens text' ts) :
    Alike Displaced Eq (parsePredicate text) (parsePredicate text') ∧
      Alike Displaced Eq (parseRedaction text) (parseRedaction text') := by
  obtain ⟨r, hr, rfl⟩ := hasTokens_iff.1 h
  obtain ⟨r', hr', htokens⟩ := hasTokens_iff.1 h'
  exact ⟨(parsePredicate_told hr hr' htokens).mono_error Told.displaced,
    (parseRedaction_told hr hr' htokens).mono_error Told.displaced⟩

end

/-- A text that has tokens is made of them and of blanks, whose places ascend and are places between
characters; and where blanks are put in between tokens, or in front or behind, the text still has
the same tokens and is read to the same, or refused for the same. -/
theorem lossless_of_tokens {text : String} {ls : List Lexeme} {stop : Nat}
    (h : tokens text = .ok (ls, stop)) :
    stop = text.utf8ByteSize ∧
    (ls.map Lexeme.offset ++ [stop]).Pairwise (· < ·) ∧
    (∀ l ∈ ls, (String.Pos.Raw.mk l.offset).IsValid text) ∧
    ∃ spans, spans.map Span.lexeme = ls ∧ Spanned text spans ∧
      ∀ before blanks after : String, before ++ after = text →
        (∀ s ∈ spans, s.Outside before.utf8ByteSize) → blanks.toList.all isBlank = true →
        HasTokens (before ++ blanks ++ after) (ls.map Lexeme.token) ∧
        Alike Displaced Eq (parsePredicate text) (parsePredicate (before ++ blanks ++ after)) ∧
        Alike Displaced Eq (parseRedaction text) (parseRedaction (before ++ blanks ++ after)) := by
  have hascend := offsets_ascend h
  obtain ⟨spans, hlaid, rfl, rfl⟩ := laid_of_tokens h
  have hspanned := hlaid.spanned
  refine ⟨rfl, hascend, ?_, spans, rfl, hspanned, ?_⟩
  · intro l hl
    obtain ⟨s, hs, rfl⟩ := List.mem_map.1 hl
    exact hspanned.isValid hs
  · intro before blanks after htext hout hblanks
    have htokens := hlaid.hasTokens htext hout hblanks
    have hsame : (spans.map Span.lexeme).map Lexeme.token = spans.map Span.token := List.map_map
    rw [hsame]
    exact ⟨htokens, HasTokens.alike ⟨_, _, h, hsame⟩ htokens⟩

theorem lossless_with_blanks_in_front :
    tokens "a REGEXP 'x'" = .ok ([⟨0, .word "a"⟩, ⟨2, .word "REGEXP"⟩, ⟨9, .text "x"⟩], 12) ∧
    (∃ spans, spans.map Span.lexeme = [⟨0, .word "a"⟩, ⟨2, .word "REGEXP"⟩, ⟨9, .text "x"⟩] ∧
      Spanned "a REGEXP 'x'" spans) ∧
    HasTokens " \na REGEXP 'x'" [.word "a", .word "REGEXP", .text "x"] := by
  have h : tokens "a REGEXP 'x'" =
    .ok ([⟨0, .word "a"⟩, ⟨2, .word "REGEXP"⟩, ⟨9, .text "x"⟩], 12) := rfl
  obtain ⟨-, -, -, spans, hls, hspanned, hinsert⟩ := lossless_of_tokens h
  have htokens := (hinsert "" " \n" "a REGEXP 'x'" rfl (fun s _ => .inl (Nat.zero_le _)) rfl).1
  exact ⟨h, ⟨spans, hls, hspanned⟩, htokens⟩

end Expr
end Quarantine
