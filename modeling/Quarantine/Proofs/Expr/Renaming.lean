import Quarantine.Proofs.Expr.Accepted

/-!
# Readings that differ in a name

Two texts whose tokens are the same, but for one name in some places, are read step by step
alike: they stop in the same place for the same reason, or give expressions that differ in the
columns from these places.  Only the type of a cast is looked at, so that none of the places may
be one.

    named c slots    the tokens slots, with the name c in the places that are left open
    rename c d e     e with the column d for the column c
    read_alike       named c slots gives e, and named d slots gives rename c d e, where c is not
                     among the slots
-/

namespace Quarantine

open Quarantine.Text Quarantine.Json

namespace Expr

/-! ## Places for a name -/

/-- Tokens with a name in every place that is left open. -/
def named (c : String) (slots : List (Option Token)) : List Token := slots.map (·.getD (.name c))

/-- That some place that is left open is the type of a cast. -/
def CastHole (slots : List (Option Token)) : Prop :=
  ∃ before inner after, ∃ (cast : Keyword ["CAST"]) (into : Keyword ["AS"]),
    slots = before ++ some (.word cast.word) :: some .openParen ::
      (inner ++ some (.word into.word) :: none :: some .closeParen :: after) ∧
    ∃ (p : Phrase) (c : String), p.tokens = named c inner

/-- That a name is none of the tokens. -/
def Absent (c : String) (slots : List (Option Token)) : Prop :=
  ∀ t, some t ∈ slots → t ≠ .word c ∧ t ≠ .name c

/-- Every name that is long enough is absent. -/
theorem exists_absent (slots : List (Option Token)) : ∃ c, Absent c slots := by
  suffices h : ∃ n, ∀ c : String, n ≤ c.length → Absent c slots by
    obtain ⟨n, hn⟩ := h
    have hlength : (String.ofList (List.replicate n 'c')).length = n := by
      rw [String.length_ofList, List.length_replicate]
    exact ⟨_, hn _ (Nat.le_of_eq hlength.symm)⟩
  have htoken (t : Token) : ∃ n, ∀ c : String, n ≤ c.length → t ≠ .word c ∧ t ≠ .name c := by
    cases t with
    | word s =>
      refine ⟨s.length + 1, fun c hc => ⟨?_, Token.noConfusion⟩⟩
      rintro ⟨⟩
      exact Nat.not_succ_le_self _ hc
    | name s =>
      refine ⟨s.length + 1, fun c hc => ⟨Token.noConfusion, ?_⟩⟩
      rintro ⟨⟩
      exact Nat.not_succ_le_self _ hc
    | _ => exact ⟨0, fun _ _ => ⟨Token.noConfusion, Token.noConfusion⟩⟩
  induction slots with
  | nil => exact ⟨0, fun c _ t h => absurd h List.not_mem_nil⟩
  | cons slot rest ih =>
    obtain ⟨n, hrest⟩ := ih
    cases slot with
    | none =>
      refine ⟨n, fun c hc t ht => hrest c hc t ?_⟩
      exact (List.mem_cons.1 ht).resolve_left (Option.some_ne_none t)
    | some u =>
      obtain ⟨m, hu⟩ := htoken u
      refine ⟨max m n, fun c hc t ht => ?_⟩
      rcases List.mem_cons.1 ht with h | ht
      · obtain rfl := Option.some.inj h
        exact hu c (Nat.le_trans (Nat.le_max_left m n) hc)
      · exact hrest c (Nat.le_trans (Nat.le_max_right m n) hc) t ht

theorem Absent.tail {c : String} {slot : Option Token} {rest : List (Option Token)}
    (h : Absent c (slot :: rest)) : Absent c rest :=
  fun t ht => h t (List.mem_cons_of_mem _ ht)

/-! ## Renamings -/

/-- That two errors are the same, but for what a text that cannot be read says about the place. -/
inductive SameError : ExprError → ExprError → Prop
  | unread {o o' : Nat} {f f' : SyntaxFault} : SameError (.syntaxFault o f) (.syntaxFault o' f')
  | same (e : ExprError) : SameError e e

theorem SameError.symm {e e' : ExprError} (h : SameError e e') : SameError e' e := by
  cases h with
  | unread => exact .unread
  | same => exact .same e

theorem SameError.trans {e e' e'' : ExprError} (h : SameError e e') (h' : SameError e' e'') :
    SameError e e'' := by
  cases h with
  | same => exact h'
  | unread =>
    cases h' with
    | unread => exact .unread
    | same => exact .unread

mutual

/-- An expression with the column `d` for the column `c`. -/
def rename (c d : String) : Expr → Expr
  | column s => column (if s = c then d else s)
  | literal v => literal v
  | castText e => castText (e.rename c d)
  | concat args => concat (renameAll c d args)
  | substrFrom s p => substrFrom (s.rename c d) (p.rename c d)
  | substr s p n => substr (s.rename c d) (p.rename c d) (n.rename c d)
  | regexpReplace s pattern r => regexpReplace (s.rename c d) pattern (r.rename c d)
  | regexpExtract s pattern g => regexpExtract (s.rename c d) pattern (g.rename c d)
  | upper e => upper (e.rename c d)
  | lower e => lower (e.rename c d)
  | sha2 s b => sha2 (s.rename c d) (b.rename c d)

def renameAll (c d : String) : List Expr → List Expr
  | [] => []
  | e :: rest => e.rename c d :: renameAll c d rest

end

/-! ## Calls -/

section

variable (c d : String)

theorem length_renameAll (es : List Expr) : (renameAll c d es).length = es.length := by
  induction es with
  | nil => rfl
  | cons e es ih => rw [renameAll, List.length_cons, List.length_cons, ih]

theorem literalPattern_rename (f : String) (e : Expr) :
    literalPattern f (e.rename c d) = literalPattern f e := by
  cases e <;> rfl

theorem map_literalPattern_rename (f : String) (e : Expr) {g g' : Pattern → Expr}
    (hg : ∀ p, g' p = (g p).rename c d) : (literalPattern f (e.rename c d)).map g' =
      ((literalPattern f e).map g).map (rename c d) := by
  rw [literalPattern_rename]
  cases literalPattern f e with
  | error e => rfl
  | ok p => exact congrArg Except.ok (hg p)

/-- A call with renamed arguments. -/
theorem call_rename (name : String) (es : List Expr) :
    call name (renameAll c d es) = (call name es).map (rename c d) := by
  unfold call
  dsimp only
  rw [length_renameAll]
  generalize asciiLower name = f
  split
  case h_1 => cases es <;> rfl
  case h_2 | h_3 => rcases es with _ | ⟨s, _ | ⟨p, _ | ⟨n, _ | ⟨m, rest⟩⟩⟩⟩ <;> rfl
  case h_4 =>
    rcases es with _ | ⟨s, _ | ⟨p, _ | ⟨r, _ | ⟨m, rest⟩⟩⟩⟩
    case cons.cons.cons.nil => exact map_literalPattern_rename c d _ p fun _ => rfl
    all_goals rfl
  case h_5 =>
    rcases es with _ | ⟨s, _ | ⟨p, _ | ⟨g, _ | ⟨m, rest⟩⟩⟩⟩
    case cons.cons.nil => exact map_literalPattern_rename c d _ p fun _ => rfl
    case cons.cons.cons.nil => exact map_literalPattern_rename c d _ p fun _ => rfl
    all_goals rfl
  case h_6 | h_7 => rcases es with _ | ⟨e, _ | ⟨m, rest⟩⟩ <;> rfl
  case h_8 => rcases es with _ | ⟨s, _ | ⟨b, _ | ⟨m, rest⟩⟩⟩ <;> rfl
  case h_9 => rfl

theorem cast_rename (target : String) (e : Expr) :
    cast target (e.rename c d) = (cast target e).map (rename c d) := by
  unfold cast
  split <;> rfl

end

/-! ## Steps of reading -/

/-- Two readings of the same tokens but for a name: `c`, which does not occur elsewhere, for the
one and `d` for the other. -/
structure Apart (c d : String) (slots : List (Option Token)) (r r' : Rest) : Prop where
  left : r.tokens = named c slots
  right : r'.tokens = named d slots
  absent : Absent c slots

section

variable {c d : String} {slots rest : List (Option Token)} {r r' : Rest} {t : Token}

theorem CastHole.of_suffix (h : CastHole rest) (hsuffix : rest <:+ slots) : CastHole slots := by
  obtain ⟨before, inner, after, cast, into, rfl, hp⟩ := h
  obtain ⟨front, rfl⟩ := hsuffix
  exact ⟨front ++ before, inner, after, cast, into, (List.append_assoc _ _ _).symm, hp⟩

namespace Apart

theorem next {slot : Option Token} (h : Apart c d (slot :: rest) r r') :
    Apart c d rest r.next r'.next :=
  ⟨Rest.tokens_next h.left, Rest.tokens_next h.right, h.absent.tail⟩

theorem peek_some (h : Apart c d (some t :: rest) r r') : r.peek = t ∧ r'.peek = t :=
  ⟨Rest.peek_of_tokens h.left, Rest.peek_of_tokens h.right⟩

theorem peek_none (h : Apart c d (none :: rest) r r') : r.peek = .name c ∧ r'.peek = .name d :=
  ⟨Rest.peek_of_tokens h.left, Rest.peek_of_tokens h.right⟩

theorem peek_nil (h : Apart c d [] r r') : r.peek = .stop ∧ r'.peek = .stop := by
  have hstop {r : Rest} (h : r.tokens = []) : r.peek = .stop := by
    obtain ⟨lexemes, stop⟩ := r
    obtain rfl := List.map_eq_nil_iff.1 h
    rfl
  exact ⟨hstop h.left, hstop h.right⟩

/-- What comes next is the same, unless it is a name. -/
theorem peek_iff (h : Apart c d slots r r') (ht : ∀ s, t ≠ .name s) : r.peek = t ↔ r'.peek = t := by
  match slots with
  | [] => rw [h.peek_nil.1, h.peek_nil.2]
  | some u :: rest => rw [h.peek_some.1, h.peek_some.2]
  | none :: rest =>
    rw [h.peek_none.1, h.peek_none.2]
    exact iff_of_false (ht c).symm (ht d).symm

/-- Where a token that is not a name comes next, it is no place that is left open. -/
theorem exists_of_peek (h : Apart c d slots r r') (ht : ∀ s, t ≠ .name s) (hstop : t ≠ .stop)
    (hpeek : r.peek = t) : ∃ rest, slots = some t :: rest := by
  match slots with
  | [] => exact absurd (hpeek.symm.trans h.peek_nil.1) hstop
  | some u :: rest => exact ⟨rest, by rw [← hpeek, h.peek_some.1]⟩
  | none :: rest => exact absurd (hpeek.symm.trans h.peek_none.1) (ht c)

theorem isKeyword (h : Apart c d slots r r') (s : String) : r.isKeyword s = r'.isKeyword s := by
  unfold Rest.isKeyword
  match slots with
  | [] => rw [h.peek_nil.1, h.peek_nil.2]
  | some u :: rest => rw [h.peek_some.1, h.peek_some.2]
  | none :: rest => rw [h.peek_none.1, h.peek_none.2]

theorem exists_of_isKeyword {s : String} (h : Apart c d slots r r') (hs : r.isKeyword s = true) :
    ∃ (k : Keyword [s]) (rest : List (Option Token)), slots = some (.word k.word) :: rest := by
  obtain ⟨k, hk⟩ := Rest.isKeyword_iff.1 hs
  obtain ⟨rest, hslots⟩ := h.exists_of_peek (fun _ => Token.noConfusion) Token.noConfusion
    (Rest.peek_of_tokens hk)
  exact ⟨k, rest, hslots⟩

theorem keyword (h : Apart c d slots r r') (s : String) :
    Alike SameError (fun a b => ∃ (k : Keyword [s]) (rest : List (Option Token)),
      slots = some (.word k.word) :: rest ∧ Apart c d rest a b) (r.keyword s) (r'.keyword s) := by
  unfold Rest.keyword
  rw [← h.isKeyword s]
  split
  · next hs =>
    obtain ⟨k, rest, rfl⟩ := h.exists_of_isKeyword hs
    exact .ok ⟨k, rest, rfl, h.next⟩
  · exact .error .unread

theorem closeParen (h : Apart c d slots r r') :
    Alike SameError (fun a b => ∃ rest, slots = some .closeParen :: rest ∧ Apart c d rest a b)
      r.closeParen r'.closeParen := by
  have hiff := h.peek_iff (t := .closeParen) fun _ => Token.noConfusion
  unfold Rest.closeParen
  by_cases hclose : r.peek = .closeParen
  · obtain ⟨rest, rfl⟩ := h.exists_of_peek (fun _ => Token.noConfusion) Token.noConfusion hclose
    rw [if_pos hclose, if_pos (hiff.1 hclose)]
    exact .ok ⟨rest, rfl, h.next⟩
  · rw [if_neg hclose, if_neg (fun h => hclose (hiff.2 h))]
    exact .error .unread

/-- A name that is read is the same in both, unless it is in a place that is left open. -/
theorem identifier (h : Apart c d slots r r') :
    Alike SameError (fun a b => ∃ slot rest, slots = slot :: rest ∧ Apart c d rest a.2 b.2 ∧
      b.1 = (if a.1 = c then d else a.1) ∧ (slot ≠ none → a.1 ≠ c)) r.identifier r'.identifier := by
  unfold Rest.identifier
  match slots with
  | [] =>
    rw [h.peek_nil.1, h.peek_nil.2]
    exact .error .unread
  | none :: rest =>
    rw [h.peek_none.1, h.peek_none.2]
    exact .ok ⟨none, rest, rfl, h.next, (if_pos rfl).symm, fun hslot => absurd rfl hslot⟩
  | some t :: rest =>
    rw [h.peek_some.1, h.peek_some.2]
    obtain ⟨hword, hname⟩ := h.absent t List.mem_cons_self
    cases t with
    | word s =>
      have hs : s ≠ c := fun hs => hword (congrArg Token.word hs)
      exact .ok ⟨_, rest, rfl, h.next, (if_neg hs).symm, fun _ => hs⟩
    | name s =>
      have hs : s ≠ c := fun hs => hname (congrArg Token.name hs)
      exact .ok ⟨_, rest, rfl, h.next, (if_neg hs).symm, fun _ => hs⟩
    | _ => exact .error .unread

theorem finished (h : Apart c d slots r r') :
    Alike SameError (fun _ _ => True) r.finished r'.finished := by
  unfold Rest.finished
  match slots with
  | [] =>
    rw [h.peek_nil.1, h.peek_nil.2]
    exact .ok trivial
  | none :: rest =>
    rw [h.peek_none.1, h.peek_none.2]
    exact .error .unread
  | some t :: rest =>
    rw [h.peek_some.1, h.peek_some.2]
    cases t with
    | stop => exact .ok trivial
    | _ => exact .error .unread

theorem afterNegation (h : Apart c d slots r r') :
    ∃ rest, Apart c d rest r.afterNegation r'.afterNegation := by
  unfold Rest.afterNegation
  rw [← h.isKeyword "NOT"]
  split
  · next hnot =>
    obtain ⟨k, rest, rfl⟩ := h.exists_of_isKeyword hnot
    exact ⟨rest, h.next⟩
  · exact ⟨slots, h⟩

theorem operator (h : Apart c d slots r r') :
    Alike SameError (fun a b => ∃ rest, Apart c d rest a b) r.operator r'.operator := by
  unfold Rest.operator
  rw [← h.isKeyword "REGEXP", ← h.isKeyword "RLIKE"]
  split
  · next ho =>
    obtain ⟨o, ho⟩ := Rest.isOperator_iff.1 ho
    obtain ⟨rest, rfl⟩ := h.exists_of_peek (fun _ => Token.noConfusion) Token.noConfusion
      (Rest.peek_of_tokens ho)
    exact .ok ⟨rest, h.next⟩
  · exact .error .unread

theorem result (h : Apart c d slots r r') :
    Alike SameError (fun a b => ∃ rest, Apart c d rest a b) r.result r'.result := by
  unfold Rest.result
  rw [← h.isKeyword "AS"]
  split
  · next has =>
    obtain ⟨k, rest, rfl⟩ := h.exists_of_isKeyword has
    refine h.next.identifier.map fun {a b} hab => ?_
    obtain ⟨-, rest, -, hrest, -⟩ := hab
    exact ⟨rest, hrest⟩
  · exact .ok ⟨slots, h⟩

/-- A text that is written out, before tokens that are left. -/
theorem text (h : Apart c d slots r r') {α : Type} {R : α → α → Prop}
    {f f' : String → Except ExprError α} {fault fault' : SyntaxFault}
    (hf : ∀ s rest, slots = some (.text s) :: rest → Alike SameError R (f s) (f' s)) :
    Alike SameError R (match r.peek with | .text s => f s | _ => r.next.fail fault)
      (match r'.peek with | .text s => f' s | _ => r'.next.fail fault') := by
  match slots with
  | [] =>
    rw [h.peek_nil.1, h.peek_nil.2]
    exact .error .unread
  | none :: rest =>
    rw [h.peek_none.1, h.peek_none.2]
    exact .error .unread
  | some t :: rest =>
    rw [h.peek_some.1, h.peek_some.2]
    cases t with
    | text s => exact hf s rest rfl
    | _ => exact .error .unread

end Apart

/-- What is read, but for the renaming, and tokens that are left after it. -/
def After (c d : String) (slots : List (Option Token)) {α β : Type} (put : α → β)
    (a : α × Rest) (b : β × Rest) : Prop :=
  b.1 = put a.1 ∧ ∃ rest, rest <:+ slots ∧ Apart c d rest a.2 b.2

theorem patternText_alike (h : Apart c d slots r r') :
    Alike SameError (After c d slots id) (patternText r) (patternText r') := by
  have hiff := h.peek_iff (t := .openParen) fun _ => Token.noConfusion
  by_cases hopen : r.peek = .openParen
  · obtain ⟨rest, rfl⟩ := h.exists_of_peek (fun _ => Token.noConfusion) Token.noConfusion hopen
    rw [patternText_of_open hopen, patternText_of_open (hiff.1 hopen)]
    refine h.next.text ?_
    rintro s more rfl
    refine h.next.next.closeParen.map ?_
    rintro a b ⟨more, rfl, hmore⟩
    exact ⟨rfl, more, ⟨[_, _, _], rfl⟩, hmore⟩
  · rw [patternText_of_not_open hopen, patternText_of_not_open fun h => hopen (hiff.2 h)]
    refine h.text ?_
    rintro s more rfl
    exact .ok ⟨rfl, more, ⟨[_], rfl⟩, h.next⟩

/-! ## Expressions -/

def ReadAlike (c d : String) (fuel : Nat) : Prop :=
  ∀ {slots : List (Option Token)} {r r' : Rest}, ¬ CastHole slots → Apart c d slots r r' →
    Alike SameError (After c d slots (rename c d)) (readExpr fuel r) (readExpr fuel r')

def ReadArgsAlike (c d : String) (fuel : Nat) : Prop :=
  ∀ {slots : List (Option Token)} {r r' : Rest}, ¬ CastHole slots → Apart c d slots r r' →
    Alike SameError (After c d slots (renameAll c d)) (readArgs fuel r) (readArgs fuel r')

/-- A cast that is read is to the same type. -/
theorem readCast_alike {fuel : Nat} (ih : ReadAlike c d fuel) (cast : Keyword ["CAST"])
    (hhole : ¬ CastHole (some (.word cast.word) :: some .openParen :: slots))
    (h : Apart c d slots r r') :
    Alike SameError (After c d slots (rename c d))
      (do
        let (inner, r) ← readExpr fuel r
        let r ← r.keyword "AS"
        let (target, r) ← r.identifier
        let r ← r.closeParen
        return (← Expr.cast target inner, r))
      (do
        let (inner, r) ← readExpr fuel r'
        let r ← r.keyword "AS"
        let (target, r) ← r.identifier
        let r ← r.closeParen
        return (← Expr.cast target inner, r)) := by
  have hslots : ¬ CastHole slots := fun hs => hhole (hs.of_suffix ⟨[_, _], rfl⟩)
  refine (ih hslots h).bind fun {a b} ha _ hread => ?_
  obtain ⟨hinner, rest₁, ⟨inner, rfl⟩, h₁⟩ := hread
  refine (h₁.keyword "AS").bind fun {a₁ b₁} _ _ hinto => ?_
  obtain ⟨into, rest₂, rfl, h₂⟩ := hinto
  refine h₂.identifier.bind fun {a₂ b₂} _ _ hidentifier => ?_
  obtain ⟨slot, rest₃, rfl, h₃, htarget, hnamed⟩ := hidentifier
  refine h₃.closeParen.bind fun {a₃ b₃} _ _ hclose => ?_
  obtain ⟨rest₄, rfl, h₄⟩ := hclose
  cases slot with
  | some t =>
    rw [htarget, if_neg (hnamed (Option.some_ne_none t)), hinner, cast_rename]
    refine (Alike.map_right .same _ _).bind fun {e f} _ _ hcast => .ok ⟨hcast, rest₄, ?_, h₄⟩
    exact ⟨inner ++ [some (.word into.word), some t, some .closeParen], by simp⟩
  | none =>
    obtain ⟨p, -, hp⟩ := (read_phrases fuel).1 ha
    refine absurd ⟨[], inner, rest₄, cast, into, rfl, p, c, ?_⟩ hhole
    rw [h.left, h₁.left, named, named, List.map_append] at hp
    exact (List.append_cancel_right hp).symm

/-- The end of a call, after its arguments. -/
theorem readCall_alike (es : List Expr) (name : String) (hrest : rest <:+ slots)
    (h : Apart c d rest r r') :
    Alike SameError (After c d slots (rename c d))
      (do
        let r ← r.closeParen
        return (← call name es, r))
      (do
        let r ← r'.closeParen
        return (← call name (renameAll c d es), r)) := by
  refine h.closeParen.bind fun {a b} _ _ hclose => ?_
  obtain ⟨rest', rfl, h'⟩ := hclose
  rw [call_rename]
  refine (Alike.map_right .same _ _).bind fun {e f} _ _ hcall => .ok ⟨hcall, rest', ?_, h'⟩
  exact (List.suffix_cons _ rest').trans hrest

/-- A word, and what comes after it. -/
theorem readWord_alike {fuel : Nat} (ih : ReadAlike c d fuel) (ihArgs : ReadArgsAlike c d fuel)
    {s : String} (hhole : ¬ CastHole (some (.word s) :: slots))
    (h : Apart c d (some (.word s) :: slots) r r') :
    Alike SameError (After c d (some (.word s) :: slots) (rename c d)) (readExpr (fuel + 1) r)
      (readExpr (fuel + 1) r') := by
  have hcolumn {e f : Expr} (he : f = e.rename c d) :
      After c d (some (.word s) :: slots) (rename c d) (e, r.next) (f, r'.next) :=
    ⟨he, slots, List.suffix_cons _ _, h.next⟩
  have hiff := h.next.peek_iff (t := .openParen) fun _ => Token.noConfusion
  rw [readExpr_succ, readExpr_succ, h.peek_some.1, h.peek_some.2]
  dsimp only
  by_cases hnull : asciiUpper s = "NULL"
  · rw [if_pos hnull, if_pos hnull]
    exact .ok (hcolumn rfl)
  rw [if_neg hnull, if_neg hnull]
  by_cases hopen : r.next.peek = .openParen
  · obtain ⟨more, rfl⟩ := h.next.exists_of_peek (fun _ => Token.noConfusion) Token.noConfusion hopen
    have hsuffix : more <:+ some (.word s) :: some .openParen :: more := ⟨[_, _], rfl⟩
    rw [if_neg (Decidable.not_not.2 hopen), if_neg (Decidable.not_not.2 (hiff.1 hopen))]
    by_cases hcast : asciiUpper s = "CAST"
    · rw [if_pos hcast, if_pos hcast]
      refine (readCast_alike ih ⟨s, List.mem_singleton.2 hcast⟩ hhole h.next.next).mono ?_
      rintro a b ⟨he, rest, hrest, hab⟩
      exact ⟨he, rest, hrest.trans hsuffix, hab⟩
    · have hclose := h.next.next.peek_iff (t := .closeParen) fun _ => Token.noConfusion
      rw [if_neg hcast, if_neg hcast]
      by_cases hempty : r.next.next.peek = .closeParen
      · rw [if_pos hempty, if_pos (hclose.1 hempty)]
        exact readCall_alike [] s hsuffix h.next.next
      · rw [if_neg hempty, if_neg fun h => hempty (hclose.2 h)]
        refine (ihArgs (fun hmore => hhole (hmore.of_suffix hsuffix)) h.next.next).bind
          fun {a b} _ _ hread => ?_
        obtain ⟨hargs, rest, hrest, hab⟩ := hread
        rw [hargs]
        exact readCall_alike a.1 s (hrest.trans hsuffix) hab
  · rw [if_pos hopen, if_pos fun h => hopen (hiff.2 h)]
    have hs : s ≠ c := fun hs => (h.absent _ List.mem_cons_self).1 (congrArg Token.word hs)
    exact .ok (hcolumn (congrArg column (if_neg hs).symm))

theorem readAlike_succ {fuel : Nat} (ih : ReadAlike c d fuel) (ihArgs : ReadArgsAlike c d fuel) :
    ReadAlike c d (fuel + 1) := by
  intro slots r r' hhole h
  match slots with
  | [] =>
    rw [readExpr_succ, readExpr_succ, h.peek_nil.1, h.peek_nil.2]
    exact .error .unread
  | none :: rest =>
    rw [readExpr_succ, readExpr_succ, h.peek_none.1, h.peek_none.2]
    exact .ok ⟨congrArg column (if_pos rfl).symm, rest, List.suffix_cons _ _, h.next⟩
  | some (.word s) :: rest => exact readWord_alike ih ihArgs hhole h
  | some .minus :: rest =>
    rw [readExpr_succ, readExpr_succ, h.peek_some.1, h.peek_some.2]
    dsimp only
    match rest with
    | [] =>
      rw [h.next.peek_nil.1, h.next.peek_nil.2]
      exact .error .unread
    | none :: rest =>
      rw [h.next.peek_none.1, h.next.peek_none.2]
      exact .error .unread
    | some t :: rest =>
      rw [h.next.peek_some.1, h.next.peek_some.2]
      cases t with
      | number n => exact .ok ⟨rfl, rest, ⟨[_, _], rfl⟩, h.next.next⟩
      | _ => exact .error .unread
  | some (.text s) :: rest | some (.number n) :: rest =>
    rw [readExpr_succ, readExpr_succ, h.peek_some.1, h.peek_some.2]
    exact .ok ⟨rfl, rest, List.suffix_cons _ _, h.next⟩
  | some (.name s) :: rest =>
    have hs : s ≠ c := fun hs => (h.absent _ List.mem_cons_self).2 (congrArg Token.name hs)
    rw [readExpr_succ, readExpr_succ, h.peek_some.1, h.peek_some.2]
    exact .ok ⟨congrArg column (if_neg hs).symm, rest, List.suffix_cons _ _, h.next⟩
  | some .openParen :: rest | some .closeParen :: rest | some .comma :: rest
  | some .stop :: rest =>
    rw [readExpr_succ, readExpr_succ, h.peek_some.1, h.peek_some.2]
    exact .error .unread

theorem readArgsAlike_succ {fuel : Nat} (ih : ReadAlike c d fuel)
    (ihArgs : ReadArgsAlike c d fuel) : ReadArgsAlike c d (fuel + 1) := by
  intro slots r r' hhole h
  rw [readArgs_succ, readArgs_succ]
  refine (ih hhole h).bind fun {a b} _ _ hread => ?_
  obtain ⟨he, rest, hrest, hab⟩ := hread
  have hiff := hab.peek_iff (t := .comma) fun _ => Token.noConfusion
  by_cases hcomma : a.2.peek = .comma
  · obtain ⟨more, rfl⟩ := hab.exists_of_peek (fun _ => Token.noConfusion) Token.noConfusion hcomma
    have hmore : more <:+ slots := (List.suffix_cons _ more).trans hrest
    simp only [if_pos hcomma, if_pos (hiff.1 hcomma)]
    refine (ihArgs (fun hm => hhole (hm.of_suffix hmore)) hab.next).bind
      fun {a' b'} _ _ hread => ?_
    obtain ⟨hes, last, hlast, hab⟩ := hread
    refine .ok ⟨?_, last, hlast.trans hmore, hab⟩
    rw [he, hes, renameAll]
  · simp only [if_neg hcomma, if_neg fun h => hcomma (hiff.2 h)]
    refine .ok ⟨?_, rest, hrest, hab⟩
    rw [he, renameAll, renameAll]

/-- Tokens that differ in a name are read to expressions that differ in it. -/
theorem read_alike (c d : String) (fuel : Nat) : ReadAlike c d fuel ∧ ReadArgsAlike c d fuel := by
  induction fuel with
  | zero => exact ⟨fun _ _ => .error .unread, fun _ _ => .error .unread⟩
  | succ fuel ih => exact ⟨readAlike_succ ih.1 ih.2, readArgsAlike_succ ih.1 ih.2⟩

theorem expression_alike (hhole : ¬ CastHole slots) (h : Apart c d slots r r') :
    Alike SameError (After c d slots (rename c d)) (expression r) (expression r') := by
  have hlength : r.lexemes.length = r'.lexemes.length := by
    have hleft := congrArg List.length h.left
    have hright := congrArg List.length h.right
    simp only [Rest.tokens, named, List.length_map] at hleft hright
    rw [hleft, hright]
  unfold expression
  rw [hlength]
  exact (read_alike c d _).1 hhole h

end

end Expr

/-! ## Predicates and redactions -/

def Predicate.rename (c d : String) (p : Predicate) : Predicate :=
  { p with subject := p.subject.rename c d }

def Redaction.rename (c d : String) (red : Redaction) : Redaction :=
  ⟨red.expr.rename c d, if red.target = c then d else red.target⟩

namespace Expr

section

variable {c d text text' : String} {slots : List (Option Token)}

theorem parsePredicate_alike (hhole : ¬ CastHole slots) (habsent : Absent c slots)
    (h : HasTokens text (named c slots)) (h' : HasTokens text' (named d slots)) :
    Alike SameError (fun p q => q = p.rename c d) (parsePredicate text)
      (parsePredicate text') := by
  obtain ⟨r, hr, htokens⟩ := hasTokens_iff.1 h
  obtain ⟨r', hr', htokens'⟩ := hasTokens_iff.1 h'
  rw [parsePredicate_eq, parsePredicate_eq, hr, hr']
  refine (expression_alike hhole ⟨htokens, htokens', habsent⟩).bind fun {a b} _ _ hread => ?_
  obtain ⟨hsubject, rest, -, hab⟩ := hread
  obtain ⟨rest₁, h₁⟩ := hab.afterNegation
  refine h₁.operator.bind fun {a₂ b₂} _ _ ⟨rest₂, h₂⟩ => ?_
  refine (patternText_alike h₂).bind fun {a₃ b₃} _ _ hpattern => ?_
  obtain ⟨hsource, rest₃, -, h₃⟩ := hpattern
  have hpatterns : Alike SameError Eq (patternOf a₃.1) (patternOf b₃.1) :=
    hsource ▸ .refl .same _
  refine hpatterns.bind fun {p q} _ _ hpq => ?_
  refine h₃.result.bind fun {a₄ b₄} _ _ ⟨rest₄, h₄⟩ => ?_
  refine h₄.finished.bind fun _ _ _ => .ok ?_
  rw [hsubject, hpq, ← hab.isKeyword "NOT"]
  rfl

theorem parseRedaction_alike (hhole : ¬ CastHole slots) (habsent : Absent c slots)
    (h : HasTokens text (named c slots)) (h' : HasTokens text' (named d slots)) :
    Alike SameError (fun p q => q = p.rename c d) (parseRedaction text)
      (parseRedaction text') := by
  obtain ⟨r, hr, htokens⟩ := hasTokens_iff.1 h
  obtain ⟨r', hr', htokens'⟩ := hasTokens_iff.1 h'
  unfold parseRedaction
  rw [hr, hr']
  refine (expression_alike hhole ⟨htokens, htokens', habsent⟩).bind fun {a b} _ _ hread => ?_
  obtain ⟨hvalue, rest, -, hab⟩ := hread
  refine (hab.keyword "AS").bind fun {a₁ b₁} _ _ hinto => ?_
  obtain ⟨into, rest₁, rfl, h₁⟩ := hinto
  refine h₁.identifier.bind fun {a₂ b₂} _ _ hidentifier => ?_
  obtain ⟨slot, rest₂, rfl, h₂, htarget, -⟩ := hidentifier
  refine h₂.finished.bind fun _ _ _ => .ok ?_
  rw [hvalue, htarget]
  rfl

end

end Expr

end Quarantine
