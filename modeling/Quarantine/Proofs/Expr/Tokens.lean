import Quarantine.Expr.Parser
import Quarantine.Proofs.Decimal.Digits
import Quarantine.Rule.Template

/-!
# The tokens of a text, part by part

Which tokens a text has does not depend on where it stands, so the tokens of a text are those
of its beginning and then those of the rest, where the last token of the one ends before the
other.

    Lexes cs ts           the characters cs have the tokens ts
    t.Ends rest           the token t does not go on in rest
    nameBody_quoteChars   a quoted name is read back, whatever its characters are
-/

namespace Quarantine.Expr

open Quarantine.Decimal Quarantine.Text

/-! ## One token -/

theorem stopsAt_of_head? {p : Char → Bool} {cs : List Char} {c : Char} (h : cs.head? = some c)
    (hc : p c = false) : StopsAt p cs := by
  intro d hd
  rw [h] at hd
  exact Option.some.inj hd ▸ hc

/-- That a token does not go on in the characters that follow it. -/
def Token.Ends : Token → List Char → Prop
  | word _, rest => StopsAt isWordChar rest
  | number _, rest => StopsAt Char.isDigit rest
  | name _, rest => StopsAt (· == '`') rest
  | _, _ => True

section

variable {cs ds rest more : List Char} {c : Char} {t : Token}

theorem Token.Ends.append (h : t.Ends more) (hnil : more ≠ []) (ds : List Char) :
    t.Ends (more ++ ds) := by
  obtain ⟨c, rest, rfl⟩ := List.exists_cons_of_ne_nil hnil
  cases t <;> exact h

/-- A quoted name is read the same whatever comes after it, except for one more backtick. -/
theorem exists_nameBody {s r : List Char} (h : nameBody cs = some (s, r)) :
    StopsAt (· == '`') r ∧ ∃ body, cs = body ++ r ∧
      ∀ ds, StopsAt (· == '`') ds → nameBody (body ++ ds) = some (s, ds) := by
  fun_induction nameBody cs generalizing s r with
  | case1 => cases h
  | case2 rest ih =>
    obtain ⟨⟨s', r'⟩, h', he⟩ := Option.map_eq_some_iff.1 h
    obtain ⟨rfl, rfl⟩ := Prod.mk.inj he
    obtain ⟨hr, body, rfl, hbody⟩ := ih h'
    refine ⟨hr, '`' :: '`' :: body, rfl, fun ds hds => ?_⟩
    rw [List.cons_append, List.cons_append, nameBody, hbody ds hds]
    rfl
  | case3 rest hrest =>
    obtain ⟨rfl, rfl⟩ := Prod.mk.inj (Option.some.inj h)
    have hopen (ds : List Char) : StopsAt (· == '`') ds ↔ ∀ more, ds ≠ '`' :: more := by
      cases ds with
      | nil => simp [stopsAt_nil]
      | cons d ds => simp [StopsAt]
    refine ⟨(hopen rest).2 fun more hm => hrest more hm, ['`'], rfl, fun ds hds => ?_⟩
    rw [List.singleton_append, nameBody.eq_3]
    exact fun more hm => (hopen ds).1 hds more hm
  | case4 c rest h₁ h₂ ih =>
    obtain ⟨⟨s', r'⟩, h', he⟩ := Option.map_eq_some_iff.1 h
    obtain ⟨rfl, rfl⟩ := Prod.mk.inj he
    obtain ⟨hr, body, rfl, hbody⟩ := ih h'
    refine ⟨hr, c :: body, rfl, fun ds hds => ?_⟩
    rw [List.cons_append, nameBody.eq_4 _ _ (fun _ hc _ => h₂ hc) h₂, hbody ds hds]
    rfl

theorem textBody_cons {quote c : Char} (hc : c ≠ '\\') (rest : List Char) :
    textBody quote (c :: rest) = if c = quote then some ([], rest) else
      (textBody quote rest).map fun (s, r) => (c :: s, r) :=
  textBody.eq_4 _ _ _ (fun h _ => hc h) fun _ _ h _ => hc h

/-- A text is read the same whatever comes after it. -/
theorem exists_textBody {quote : Char} {s r : List Char} (h : textBody quote cs = some (s, r)) :
    ∃ body, cs = body ++ r ∧ ∀ ds, textBody quote (body ++ ds) = some (s, ds) := by
  fun_induction textBody quote cs generalizing s r with
  | case1 => cases h
  | case2 => cases h
  | case3 c rest ih =>
    obtain ⟨⟨s', r'⟩, h', he⟩ := Option.map_eq_some_iff.1 h
    obtain ⟨rfl, rfl⟩ := Prod.mk.inj he
    obtain ⟨body, rfl, hbody⟩ := ih h'
    refine ⟨'\\' :: c :: body, rfl, fun ds => ?_⟩
    rw [List.cons_append, List.cons_append, textBody, hbody ds]
    rfl
  | case4 rest h₁ h₂ =>
    have hquote : quote ≠ '\\' := by
      rintro rfl
      cases rest with
      | nil => exact h₁ rfl rfl
      | cons d rest => exact h₂ d rest rfl rfl
    obtain ⟨rfl, rfl⟩ := Prod.mk.inj (Option.some.inj h)
    exact ⟨[quote], rfl, fun ds => by rw [List.singleton_append, textBody_cons hquote, if_pos rfl]⟩
  | case5 c rest h₁ h₂ hq ih =>
    have hc : c ≠ '\\' := by
      rintro rfl
      cases rest with
      | nil => exact h₁ rfl rfl
      | cons d rest => exact h₂ d rest rfl rfl
    obtain ⟨⟨s', r'⟩, h', he⟩ := Option.map_eq_some_iff.1 h
    obtain ⟨rfl, rfl⟩ := Prod.mk.inj he
    obtain ⟨body, rfl, hbody⟩ := ih h'
    refine ⟨c :: body, rfl, fun ds => ?_⟩
    rw [List.cons_append, textBody_cons hc, if_neg hq, hbody ds]
    rfl

/-- A run of characters is cut off the same whatever comes after it. -/
theorem exists_run {p : Char → Bool} (cs : List Char) :
    StopsAt p (cs.dropWhile p) ∧ ∀ ds, StopsAt p ds →
      (cs.takeWhile p ++ ds).takeWhile p = cs.takeWhile p ∧
        (cs.takeWhile p ++ ds).dropWhile p = ds := by
  refine ⟨fun c hc => ?_, fun ds hds => ?_⟩
  · have hhead := List.head?_dropWhile_not p cs
    rw [Option.mem_def.1 hc] at hhead
    exact hhead
  · have htake := List.all_eq_true.1 (List.all_takeWhile (p := p) (l := cs))
    exact ⟨takeWhile_append_of_stopsAt htake hds, dropWhile_append_of_stopsAt htake hds⟩

/-- A token is read the same whatever comes after it, if it ends there. -/
theorem exists_readToken (h : readToken c rest = .ok (t, more)) :
    t.Ends more ∧ ∃ body, rest = body ++ more ∧
      ∀ ds, t.Ends ds → readToken c (body ++ ds) = .ok (t, ds) := by
  unfold readToken at h
  split at h
  case h_5 =>
    split at h
    · next s r hs =>
      obtain ⟨rfl, rfl⟩ := Prod.mk.inj (Except.ok.inj h)
      obtain ⟨hr, body, rfl, hbody⟩ := exists_nameBody hs
      refine ⟨hr, body, rfl, fun ds hds => ?_⟩
      rw [readToken.eq_5, hbody ds hds]
    · cases h
  case h_6 _ h₁ h₂ h₃ h₄ h₅ =>
    have hread (rest : List Char) := readToken.eq_6 c rest h₁ h₂ h₃ h₄ h₅
    split at h
    · next hquote =>
      split at h
      · next s r hs =>
        obtain ⟨rfl, rfl⟩ := Prod.mk.inj (Except.ok.inj h)
        obtain ⟨body, rfl, hbody⟩ := exists_textBody hs
        exact ⟨trivial, body, rfl, fun ds _ => by rw [hread, if_pos hquote, hbody]⟩
      · cases h
    · next hquote =>
      split at h
      · next hdigit =>
        split at h
        · next n hn =>
          obtain ⟨rfl, rfl⟩ := Prod.mk.inj (Except.ok.inj h)
          obtain ⟨hstops, hrun⟩ := exists_run (p := Char.isDigit) rest
          refine ⟨hstops, _, List.takeWhile_append_dropWhile.symm, fun ds hds => ?_⟩
          obtain ⟨htake, hdrop⟩ := hrun ds hds
          rw [hread, if_neg hquote, if_pos hdigit, htake, hdrop, hn]
        · cases h
      · next hdigit =>
        split at h
        · next hword =>
          obtain ⟨rfl, rfl⟩ := Prod.mk.inj (Except.ok.inj h)
          obtain ⟨hstops, hrun⟩ := exists_run (p := isWordChar) rest
          refine ⟨hstops, _, List.takeWhile_append_dropWhile.symm, fun ds hds => ?_⟩
          obtain ⟨htake, hdrop⟩ := hrun ds hds
          rw [hread, if_neg hquote, if_neg hdigit, if_pos hword, htake, hdrop]
        · cases h
  all_goals
    obtain ⟨rfl, rfl⟩ := Prod.mk.inj (Except.ok.inj h)
    exact ⟨trivial, [], rfl, fun _ _ => rfl⟩

end

/-! ## Lists of tokens -/

/-- That characters have these tokens. -/
inductive Lexes : List Char → List Token → Prop
  | nil {cs} (h : cs.dropWhile isBlank = []) : Lexes cs []
  | cons {cs c rest t more ts} (h : cs.dropWhile isBlank = c :: rest)
      (hread : readToken c rest = .ok (t, more)) (hmore : Lexes more ts) : Lexes cs (t :: ts)

section

variable {cs ds : List Char} {t : Token} {ts us : List Token}

/-- Blanks in front do not matter. -/
theorem Lexes.blanks (hcs : cs.dropWhile isBlank = []) (h : Lexes ds us) : Lexes (cs ++ ds) us := by
  have hdrop : (cs ++ ds).dropWhile isBlank = ds.dropWhile isBlank := by
    rw [List.dropWhile_append, hcs]
    rfl
  cases h with
  | nil h => exact .nil (hdrop.trans h)
  | cons h hread hmore => exact .cons (hdrop.trans h) hread hmore

/-- The tokens of two texts, one after the other. -/
theorem Lexes.append (h : Lexes cs ts) (hall : ∀ t ∈ ts.getLast?, t.Ends ds)
    (hds : Lexes ds us) : Lexes (cs ++ ds) (ts ++ us) := by
  induction h with
  | nil h => exact .blanks h hds
  | @cons cs c rest t more ts h hread hmore ih =>
    have hcons : (cs ++ ds).dropWhile isBlank = c :: (rest ++ ds) := by
      rw [List.dropWhile_append, h]
      rfl
    obtain ⟨hmoreEnds, body, rfl, hbody⟩ := exists_readToken hread
    have hends : t.Ends (more ++ ds) := by
      by_cases hnil : more = []
      · subst hnil
        cases hmore with
        | nil => exact hall t (by rfl)
        | cons h => cases h
      · exact hmoreEnds.append hnil ds
    have hlast : ∀ u ∈ ts.getLast?, u.Ends ds := by
      intro u hu
      have hts : ts ≠ [] := by
        rintro rfl
        cases hu
      exact hall u (by rwa [List.getLast?_cons_of_ne_nil hts])
    rw [List.append_assoc] at hcons
    exact .cons hcons (hbody _ hends) (ih hlast)

/-! ## All tokens of a text -/

theorem tokensFrom_of_lexes (h : Lexes cs ts) {fuel : Nat} (hfuel : cs.length < fuel)
    (offset : Nat) : ∃ ls stop, tokensFrom fuel offset cs = .ok (ls, stop) ∧
      ls.map Lexeme.token = ts := by
  induction h generalizing fuel offset with
  | nil h =>
    obtain ⟨fuel, rfl⟩ : ∃ f, fuel = f + 1 := ⟨fuel - 1, by omega⟩
    rw [tokensFrom, h]
    exact ⟨[], _, rfl, rfl⟩
  | @cons cs c rest t more ts h hread hmore ih =>
    obtain ⟨fuel, rfl⟩ : ∃ f, fuel = f + 1 := ⟨fuel - 1, by omega⟩
    have hlength : (c :: rest).length ≤ cs.length := h ▸ (List.dropWhile_suffix isBlank).length_le
    obtain ⟨-, body, rfl, -⟩ := exists_readToken hread
    simp only [List.length_cons, List.length_append] at hlength
    rw [tokensFrom, h]
    dsimp only
    rw [hread]
    dsimp only
    have hfuel : more.length < fuel := by omega
    obtain ⟨ls, stop, hls, hts⟩ := ih hfuel _
    rw [hls]
    exact ⟨_, _, rfl, congrArg (t :: ·) hts⟩

theorem lexes_of_tokensFrom {fuel offset stop : Nat} {ls : List Lexeme} (hfuel : cs.length < fuel)
    (h : tokensFrom fuel offset cs = .ok (ls, stop)) : Lexes cs (ls.map Lexeme.token) := by
  induction fuel generalizing cs offset ls stop with
  | zero => omega
  | succ fuel ih =>
    rw [tokensFrom] at h
    dsimp only at h
    split at h
    · next hdrop =>
      obtain ⟨rfl, -⟩ := Prod.mk.inj (Except.ok.inj h)
      exact .nil hdrop
    · next c rest hdrop =>
      split at h
      · cases h
      · next t more hread =>
        have hlength : (c :: rest).length ≤ cs.length :=
          hdrop ▸ (List.dropWhile_suffix isBlank).length_le
        obtain ⟨-, body, rfl, -⟩ := exists_readToken hread
        simp only [List.length_cons, List.length_append] at hlength
        split at h
        · cases h
        · next ls' stop' hls =>
          obtain ⟨rfl, -⟩ := Prod.mk.inj (Except.ok.inj h)
          exact .cons hdrop hread (ih (by omega) hls)

/-- A text has these tokens exactly if its characters do. -/
theorem tokens_ok_iff {text : String} : Lexes text.toList ts ↔
    ∃ ls stop, tokens text = .ok (ls, stop) ∧ ls.map Lexeme.token = ts := by
  constructor
  · exact fun h => tokensFrom_of_lexes h (Nat.lt_succ_self _) 0
  · rintro ⟨ls, stop, h, rfl⟩
    exact lexes_of_tokensFrom (Nat.lt_succ_self _) h

end

/-- Tokens at some places. -/
def placed (offset : Nat → Nat) : List Token → List Lexeme
  | [] => []
  | t :: ts => ⟨offset 0, t⟩ :: placed (fun i => offset (i + 1)) ts

theorem exists_placed (ls : List Lexeme) : ∃ offset, placed offset (ls.map Lexeme.token) = ls := by
  induction ls with
  | nil => exact ⟨fun _ => 0, rfl⟩
  | cons l ls ih =>
    obtain ⟨offset, h⟩ := ih
    exact ⟨fun i => @Nat.casesOn (fun _ => Nat) i l.offset offset, congrArg (l :: ·) h⟩

/-- Reading starts with the tokens of the text. -/
theorem start_of_lexes {text : String} {ts : List Token} (h : Lexes text.toList ts) :
    ∃ offset stop, start text = .ok ⟨placed offset ts, stop⟩ := by
  obtain ⟨ls, stop, htokens, rfl⟩ := tokens_ok_iff.1 h
  obtain ⟨offset, hplaced⟩ := exists_placed ls
  exact ⟨offset, stop, by rw [start, htokens, hplaced]⟩

/-! ## Quoted names -/

theorem nameBody_doubled (cs : List Char) {rest : List Char} (h : StopsAt (· == '`') rest) :
    nameBody ((cs.flatMap fun c => if c = '`' then ['`', '`'] else [c]) ++ '`' :: rest) =
      some (cs, rest) := by
  induction cs with
  | nil =>
    refine nameBody.eq_3 rest fun more hmore => ?_
    subst hmore
    exact Bool.noConfusion (h '`' rfl)
  | cons c cs ih =>
    rw [List.flatMap_cons, List.append_assoc]
    split
    · next hc =>
      rw [hc, List.cons_append, List.singleton_append, nameBody, ih]
      rfl
    · next hc =>
      rw [List.singleton_append, nameBody.eq_4 _ _ (fun _ h _ => hc h) hc, ih]
      rfl

variable {t : Token}

/-- A quoted name is one token, whatever its characters are. -/
theorem exists_quoteName_eq (name : String) :
    ∃ body, (Quarantine.quoteName name).toList = '`' :: body ∧ ∀ {rest : List Char},
      StopsAt (· == '`') rest → readToken '`' (body ++ rest) = .ok (.name name, rest) := by
  refine ⟨(name.toList.flatMap fun c => if c = '`' then ['`', '`'] else [c]) ++ ['`'], ?_,
    fun hrest => ?_⟩
  · rw [Quarantine.quoteName, String.toList_ofList]
    rfl
  · rw [List.append_assoc, List.singleton_append, readToken.eq_5,
      nameBody_doubled name.toList hrest]
    dsimp only
    rw [String.ofList_toList]

theorem Lexes.quoteName (name : String) {rest : List Char} {ts : List Token}
    (hrest : StopsAt (· == '`') rest) (h : Lexes rest ts) :
    Lexes ((quoteName name).toList ++ rest) (.name name :: ts) := by
  obtain ⟨body, hname, hread⟩ := exists_quoteName_eq name
  rw [hname]
  exact .cons (dropWhile_of_stopsAt (stopsAt_cons _ (by decide +kernel))) (hread hrest) h

theorem Lexes.last (name : String) : Lexes (Quarantine.quoteName name).toList [.name name] := by
  have h := Lexes.quoteName name (stopsAt_nil _) (.nil rfl)
  rwa [List.append_nil] at h

/-- A backtick ends every token in front of it but a name. -/
theorem ends_backtick (rest : List Char) (ht : ∀ s, t ≠ .name s) : t.Ends ('`' :: rest) := by
  cases t with
  | word s => exact stopsAt_cons _ (by decide +kernel)
  | number n => exact stopsAt_cons _ (by decide)
  | name s => exact absurd rfl (ht s)
  | _ => trivial

theorem ends_quoteName (name : String) (rest : List Char) (ht : ∀ s, t ≠ .name s) :
    t.Ends ((Quarantine.quoteName name).toList ++ rest) := by
  obtain ⟨body, hname, -⟩ := exists_quoteName_eq name
  rw [hname]
  exact ends_backtick _ ht

/-- A text between quotes is one token, if it has no such quote inside. -/
theorem Lexes.text {quote : Char} (hquote : quote = '\'' ∨ quote = '"') {cs s rest : List Char}
    {ts : List Token} (htext : textBody quote (cs ++ [quote]) = some (s, []))
    (h : Lexes rest ts) :
    Lexes (quote :: (cs ++ quote :: rest)) (.text (String.ofList s) :: ts) := by
  obtain ⟨body, hcs, hbody⟩ := exists_textBody htext
  have hread : readToken quote (cs ++ quote :: rest) = .ok (.text (String.ofList s), rest) := by
    have hrest : cs ++ quote :: rest = body ++ rest := by
      rw [List.append_nil] at hcs
      rw [← hcs, List.append_assoc, List.singleton_append]
    rcases hquote with rfl | rfl
    · rw [hrest, readToken.eq_6 _ _ (by decide) (by decide) (by decide) (by decide) (by decide),
        if_pos (.inl rfl), hbody]
    · rw [hrest, readToken.eq_6 _ _ (by decide) (by decide) (by decide) (by decide) (by decide),
        if_pos (.inr rfl), hbody]
  refine .cons (dropWhile_of_stopsAt (stopsAt_cons _ ?_)) hread h
  rcases hquote with rfl | rfl <;> decide +kernel

end Quarantine.Expr
