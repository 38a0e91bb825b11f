import Quarantine.Proofs.Expr.Tokens

/-!
# Texts cut in front of a quoted name

Whether a place of a text lies within quotes is told by the characters before it.  Where it does
not, no token goes across the place to a backtick, so that the tokens before it and those from it
on are the tokens of the text.

    modeFrom m cs       the mode after the characters cs, from the mode m
    lexes_append_iff    the tokens of a text that is cut where no quotation is open
-/

namespace Quarantine.Expr

open Quarantine.Decimal Quarantine.Text

/-! ## Modes -/

/-- Where a place of a text lies. -/
inductive Mode where
  | outside
  | text (quote : Char)
  /-- After a backslash in a text. -/
  | escape (quote : Char)
  | name
  deriving DecidableEq

/-- The mode after one more character.  A backtick that is written twice closes a name and opens
it again. -/
def Mode.step : Mode → Char → Mode
  | outside, c => if c = '\'' ∨ c = '"' then text c else if c = '`' then name else outside
  | text q, c => if c = '\\' then escape q else if c = q then outside else text q
  | escape q, _ => text q
  | name, c => if c = '`' then outside else name

def modeFrom (m : Mode) (cs : List Char) : Mode := cs.foldl Mode.step m

section

variable {p : Char → Bool} {cs ds rest : List Char} {c : Char} {t : Token} {ts us : List Token}

theorem modeFrom_append (m : Mode) (cs ds : List Char) :
    modeFrom m (cs ++ ds) = modeFrom (modeFrom m cs) ds := List.foldl_append

/-- That characters of some kind open no quotation. -/
def Unquoting (p : Char → Bool) : Prop := p '\'' = false ∧ p '"' = false ∧ p '`' = false

theorem Unquoting.step (hp : Unquoting p) (hc : p c = true) : Mode.step .outside c = .outside := by
  have hne {d : Char} (hd : p d = false) : c ≠ d := by
    rintro rfl
    exact Bool.noConfusion (hc.symm.trans hd)
  obtain ⟨hsingle, hdouble, hbacktick⟩ := hp
  rw [Mode.step, if_neg (not_or.2 ⟨hne hsingle, hne hdouble⟩), if_neg (hne hbacktick)]

theorem modeFrom_dropWhile (hp : Unquoting p) (cs : List Char) :
    modeFrom .outside (cs.dropWhile p) = modeFrom .outside cs := by
  induction cs with
  | nil => rfl
  | cons c cs ih =>
    rw [List.dropWhile_cons]
    split
    · next hc => rw [ih, modeFrom, modeFrom, List.foldl_cons, hp.step hc]
    · rfl

theorem unquoting_isBlank : Unquoting isBlank := by
  unfold Unquoting
  decide +kernel

theorem unquoting_isDigit : Unquoting Char.isDigit := by
  unfold Unquoting
  decide

theorem unquoting_isWordChar : Unquoting isWordChar := by
  unfold Unquoting
  decide +kernel

/-! ## Quotations -/

/-- A name that is closed is read. -/
theorem exists_nameBody_of_mode (h : modeFrom .name cs = .outside) :
    ∃ s r, nameBody cs = some (s, r) ∧ modeFrom .outside r = .outside := by
  fun_induction nameBody cs with
  | case1 => cases h
  | case2 rest ih =>
    obtain ⟨s, r, hs, hr⟩ := ih h
    exact ⟨_, r, by rw [hs]; rfl, hr⟩
  | case3 rest hrest => exact ⟨[], rest, rfl, h⟩
  | case4 c rest h₁ h₂ ih =>
    have hstep : Mode.step .name c = .name := if_neg h₂
    rw [modeFrom, List.foldl_cons, hstep] at h
    obtain ⟨s, r, hs, hr⟩ := ih h
    exact ⟨_, r, by rw [hs]; rfl, hr⟩

/-- A text that is closed is read. -/
theorem exists_textBody_of_mode {quote : Char} (hquote : quote ≠ '\\')
    (h : modeFrom (.text quote) cs = .outside) :
    ∃ s r, textBody quote cs = some (s, r) ∧ modeFrom .outside r = .outside := by
  fun_induction textBody quote cs with
  | case1 => cases h
  | case2 => cases h
  | case3 c rest ih =>
    obtain ⟨s, r, hs, hr⟩ := ih h
    exact ⟨_, r, by rw [hs]; rfl, hr⟩
  | case4 rest h₁ h₂ =>
    have hstep : Mode.step (.text quote) quote = .outside := by
      rw [Mode.step, if_neg hquote, if_pos rfl]
    rw [modeFrom, List.foldl_cons, hstep] at h
    exact ⟨[], rest, rfl, h⟩
  | case5 c rest h₁ h₂ hq ih =>
    have hc : c ≠ '\\' := by
      rintro rfl
      cases rest with
      | nil => exact h₁ rfl rfl
      | cons d rest => exact h₂ d rest rfl rfl
    have hstep : Mode.step (.text quote) c = .text quote := by
      rw [Mode.step, if_neg hc, if_neg hq]
    rw [modeFrom, List.foldl_cons, hstep] at h
    obtain ⟨s, r, hs, hr⟩ := ih h
    exact ⟨_, r, by rw [hs]; rfl, hr⟩

theorem getLast?_of_nameBody {s : List Char} (h : nameBody cs = some (s, [])) :
    cs.getLast? = some '`' := by
  fun_induction nameBody cs generalizing s with
  | case1 => cases h
  | case2 rest ih =>
    obtain ⟨⟨s', r'⟩, h', he⟩ := Option.map_eq_some_iff.1 h
    rw [(Prod.mk.inj he).2] at h'
    rw [List.getLast?_cons, List.getLast?_cons, ih h']
    rfl
  | case3 rest hrest =>
    rw [(Prod.mk.inj (Option.some.inj h)).2]
    rfl
  | case4 c rest h₁ h₂ ih =>
    obtain ⟨⟨s', r'⟩, h', he⟩ := Option.map_eq_some_iff.1 h
    rw [(Prod.mk.inj he).2] at h'
    rw [List.getLast?_cons, ih h']
    rfl

/-! ## The first token -/

theorem getLast?_ne_of_append {a : Char} (h : (cs ++ ds).getLast? ≠ some a) :
    ds.getLast? ≠ some a := by
  intro he
  rw [List.getLast?_append, he] at h
  exact h rfl

theorem stopsAt_append (h : StopsAt p cs) (hds : StopsAt p ds) : StopsAt p (cs ++ ds) := by
  cases cs with
  | nil => exact hds
  | cons c cs => exact h

theorem ne_backslash (h : c = '\'' ∨ c = '"') : c ≠ '\\' := by
  rintro rfl
  revert h
  decide

theorem mode_quote (h : c = '\'' ∨ c = '"') (rest : List Char) :
    modeFrom .outside (c :: rest) = modeFrom (.text c) rest := by
  rw [modeFrom, List.foldl_cons, Mode.step, if_pos h]
  rfl

theorem getLast?_of_readToken {s : String} (h : readToken c rest = .ok (.name s, [])) :
    (c :: rest).getLast? = some '`' := by
  unfold readToken at h
  split at h
  case h_5 =>
    split at h
    · next s' r hs =>
      rw [(Prod.mk.inj (Except.ok.inj h)).2] at hs
      rw [List.getLast?_cons, getLast?_of_nameBody hs]
      rfl
    · cases h
  case h_6 =>
    split at h
    · split at h <;> cases h
    split at h
    · split at h <;> cases h
    split at h <;> cases h
  all_goals cases h

theorem mode_of_readToken {more : List Char} (hmode : modeFrom .outside (c :: rest) = .outside)
    (h : readToken c rest = .ok (t, more)) : modeFrom .outside more = .outside := by
  unfold readToken at h
  split at h
  case h_5 =>
    obtain ⟨s, r, hs, hr⟩ := exists_nameBody_of_mode hmode
    rw [hs] at h
    exact (Prod.mk.inj (Except.ok.inj h)).2 ▸ hr
  case h_6 _ h₁ h₂ h₃ h₄ h₅ =>
    split at h
    · next hquote =>
      obtain ⟨s, r, hs, hr⟩ := exists_textBody_of_mode (ne_backslash hquote)
        (mode_quote hquote rest ▸ hmode)
      rw [hs] at h
      exact (Prod.mk.inj (Except.ok.inj h)).2 ▸ hr
    next hquote =>
    rw [modeFrom, List.foldl_cons, Mode.step, if_neg hquote, if_neg h₅] at hmode
    split at h
    · split at h
      · rw [← (Prod.mk.inj (Except.ok.inj h)).2, modeFrom_dropWhile unquoting_isDigit]
        exact hmode
      · cases h
    split at h
    · rw [← (Prod.mk.inj (Except.ok.inj h)).2, modeFrom_dropWhile unquoting_isWordChar]
      exact hmode
    · cases h
  all_goals exact (Prod.mk.inj (Except.ok.inj h)).2 ▸ hmode

/-- A text that is refused at its first token is refused before a backtick, where no quotation is
open. -/
theorem readToken_append_of_error {e : LexFault}
    (hmode : modeFrom .outside (c :: rest) = .outside) (h : readToken c rest = .error e)
    (ds : List Char) : readToken c (rest ++ '`' :: ds) = .error e := by
  unfold readToken at h
  split at h
  case h_5 =>
    obtain ⟨s, r, hs, -⟩ := exists_nameBody_of_mode hmode
    rw [hs] at h
    cases h
  case h_6 _ h₁ h₂ h₃ h₄ h₅ =>
    have hread (rest : List Char) := readToken.eq_6 c rest h₁ h₂ h₃ h₄ h₅
    split at h
    · next hquote =>
      obtain ⟨s, r, hs, -⟩ := exists_textBody_of_mode (ne_backslash hquote)
        (mode_quote hquote rest ▸ hmode)
      rw [hs] at h
      cases h
    next hquote =>
    split at h
    · next hdigit =>
      split at h
      · cases h
      · next hnumber =>
        obtain ⟨hstops, hrun⟩ := exists_run (p := Char.isDigit) rest
        have hbacktick : StopsAt Char.isDigit ('`' :: ds) := stopsAt_cons ds (by decide)
        have hds := (hrun _ (stopsAt_append hstops hbacktick)).1
        rw [← List.append_assoc, List.takeWhile_append_dropWhile] at hds
        rw [hread, if_neg hquote, if_pos hdigit, hds, hnumber]
        exact h
    next hdigit =>
    split at h
    · cases h
    · next hword =>
      rw [hread, if_neg hquote, if_neg hdigit, if_neg hword]
      exact h
  all_goals cases h

/-- The first token of a text is the same before a backtick, where no quotation is open. -/
theorem readToken_append {more : List Char} (h : readToken c rest = .ok (t, more))
    (hlast : (c :: rest).getLast? ≠ some '`') (ds : List Char) :
    readToken c (rest ++ '`' :: ds) = .ok (t, more ++ '`' :: ds) := by
  obtain ⟨hends, body, rfl, hbody⟩ := exists_readToken h
  rw [List.append_assoc]
  refine hbody _ ?_
  by_cases hmore : more = []
  · subst hmore
    refine ends_backtick ds ?_
    rintro s rfl
    exact hlast (getLast?_of_readToken h)
  · exact hends.append hmore _

/-! ## All tokens -/

theorem lexes_congr (h : cs.dropWhile isBlank = ds.dropWhile isBlank) :
    Lexes cs ts ↔ Lexes ds ts := by
  have hmono {cs ds : List Char} (h : cs.dropWhile isBlank = ds.dropWhile isBlank)
      (hts : Lexes cs ts) : Lexes ds ts := by
    cases hts with
    | nil hcs => exact .nil (h.symm.trans hcs)
    | cons hcs hread hmore => exact .cons (h.symm.trans hcs) hread hmore
  exact ⟨hmono h, hmono h.symm⟩

theorem lexes_iff_of_blank (h : cs.dropWhile isBlank = []) : Lexes cs ts ↔ ts = [] := by
  constructor
  · intro hts
    cases hts with
    | nil => rfl
    | cons h' => exact absurd (h.symm.trans h') (List.cons_ne_nil _ _).symm
  · rintro rfl
    exact .nil h

theorem lexes_iff_of_ok {more : List Char} (h : cs.dropWhile isBlank = c :: rest)
    (hread : readToken c rest = .ok (t, more)) :
    Lexes cs ts ↔ ∃ us, ts = t :: us ∧ Lexes more us := by
  constructor
  · intro hts
    cases hts with
    | nil h' => exact absurd (h.symm.trans h') (List.cons_ne_nil _ _)
    | cons h' hread' hmore =>
      obtain ⟨rfl, rfl⟩ := List.cons.inj (h.symm.trans h')
      obtain ⟨rfl, rfl⟩ := Prod.mk.inj (Except.ok.inj (hread.symm.trans hread'))
      exact ⟨_, rfl, hmore⟩
  · rintro ⟨us, rfl, hmore⟩
    exact .cons h hread hmore

theorem not_lexes_of_error {e : LexFault} (h : cs.dropWhile isBlank = c :: rest)
    (hread : readToken c rest = .error e) : ¬ Lexes cs ts := by
  intro hts
  cases hts with
  | nil h' => exact absurd (h.symm.trans h') (List.cons_ne_nil _ _)
  | cons h' hread' =>
    obtain ⟨rfl, rfl⟩ := List.cons.inj (h.symm.trans h')
    cases hread.symm.trans hread'

/-- The tokens of a text that is cut before a backtick, where no quotation is open. -/
theorem lexes_append_iff (hmode : modeFrom .outside cs = .outside)
    (hlast : cs.getLast? ≠ some '`') :
    Lexes (cs ++ '`' :: ds) ts ↔ ∃ us vs, ts = us ++ vs ∧ Lexes cs us ∧ Lexes ('`' :: ds) vs := by
  induction hlength : cs.length using Nat.strongRecOn generalizing cs ts with
  | ind n ih =>
  subst hlength
  cases hcs : cs.dropWhile isBlank with
  | nil =>
    have hblanks : Lexes (cs ++ '`' :: ds) ts ↔ Lexes ('`' :: ds) ts :=
      lexes_congr (by rw [List.dropWhile_append, hcs]; rfl)
    simp only [hblanks, lexes_iff_of_blank hcs]
    constructor
    · exact fun h => ⟨[], ts, rfl, rfl, h⟩
    · rintro ⟨us, vs, rfl, rfl, h⟩
      exact h
  | cons c rest =>
    obtain ⟨blanks, hsuffix⟩ : c :: rest <:+ cs := hcs ▸ List.dropWhile_suffix isBlank
    have hmode' : modeFrom .outside (c :: rest) = .outside := by
      rw [← hcs, modeFrom_dropWhile unquoting_isBlank, hmode]
    have hlast' := getLast?_ne_of_append (hsuffix ▸ hlast)
    have hcons : (cs ++ '`' :: ds).dropWhile isBlank = c :: (rest ++ '`' :: ds) := by
      rw [List.dropWhile_append, hcs]
      rfl
    cases hread : readToken c rest with
    | error e =>
      have hds := readToken_append_of_error hmode' hread ds
      refine iff_of_false (not_lexes_of_error hcons hds) ?_
      rintro ⟨us, vs, -, hus, -⟩
      exact not_lexes_of_error hcs hread hus
    | ok result =>
      obtain ⟨t, more⟩ := result
      obtain ⟨-, body, rfl, -⟩ := exists_readToken hread
      have hlength := congrArg List.length hsuffix
      simp only [List.length_append, List.length_cons] at hlength
      have hmore : more.getLast? ≠ some '`' := by
        rw [← List.cons_append] at hlast'
        exact getLast?_ne_of_append hlast'
      have ih (ts : List Token) : Lexes (more ++ '`' :: ds) ts ↔ _ :=
        ih more.length (by omega) (mode_of_readToken hmode' hread) hmore rfl
      rw [lexes_iff_of_ok hcons (readToken_append hread hlast' ds)]
      simp only [lexes_iff_of_ok hcs hread, ih]
      constructor
      · rintro ⟨_, rfl, us, vs, rfl, hus, hvs⟩
        exact ⟨t :: us, vs, rfl, ⟨us, rfl, hus⟩, hvs⟩
      · rintro ⟨_, vs, rfl, ⟨us, rfl, hus⟩, hvs⟩
        exact ⟨us ++ vs, rfl, us, vs, rfl, hus, hvs⟩

end

end Quarantine.Expr
