import Quarantine.Proofs.Expr.Quotation
import Quarantine.Proofs.Expr.Renaming
import Quarantine.Proofs.Rule.Filling

/-!
# What a template says does not depend on the column

Where every placeholder of a text is exposed, a column that is put in is one token, whatever its
characters are, and the other tokens stay as they are.  So what is read is the same for every
column, but for the column itself, unless a placeholder is the type of a cast.

    Exposed text        no placeholder lies within quotes, or next to a backtick or a placeholder
    lexes_fill_iff      the tokens before the first placeholder, the name, and those after it
    ReadsAlike read     one tree with each of the columns put in, or the same error for all columns
    read_filled_alike   the tokens and the trees of the text for all columns
-/

namespace Quarantine

open Quarantine.Decimal Quarantine.Expr Quarantine.Text

/-! ## Exposed placeholders -/

/-- That the placeholders of characters lie outside of quotes, and away from backticks and from
each other. -/
def ExposedChars (cs : List Char) : Prop :=
  ∀ before after, cs = before ++ '\x7b' :: '\x7d' :: after →
    modeFrom .outside before = .outside ∧ before.getLast? ≠ some '`' ∧
      after.head? ≠ some '`' ∧ ¬ ['\x7b', '\x7d'] <+: after

def Exposed (text : String) : Prop := ExposedChars text.toList

/-- It is enough to look at every place of a text. -/
theorem exposedChars_iff {cs : List Char} :
    ExposedChars cs ↔ ∀ i < cs.length, cs.drop i = '\x7b' :: '\x7d' :: cs.drop (i + 2) →
      modeFrom .outside (cs.take i) = .outside ∧ (cs.take i).getLast? ≠ some '`' ∧
        (cs.drop (i + 2)).head? ≠ some '`' ∧ ¬ ['\x7b', '\x7d'] <+: cs.drop (i + 2) := by
  constructor
  · intro h i _ hi
    refine h _ _ ?_
    rw [← hi, List.take_append_drop]
  · rintro h before after rfl
    have hdrop : (before ++ '\x7b' :: '\x7d' :: after).drop (before.length + 2) = after := by
      rw [← List.drop_drop, List.drop_left]
      rfl
    have hi := h before.length (by simp)
    rw [List.take_left, List.drop_left, hdrop] at hi
    exact hi rfl

instance (text : String) : Decidable (Exposed text) := decidable_of_iff _ exposedChars_iff.symm

/-- The number of placeholders. -/
def countPlaceholders : List Char → Nat
  | '\x7b' :: '\x7d' :: rest => countPlaceholders rest + 1
  | _ :: rest => countPlaceholders rest
  | [] => 0

/-- That a placeholder of a text is the type of a cast. -/
def CastTarget (text : String) : Prop :=
  ∃ slots, (∀ c, HasTokens (fill (quoteName c) text) (named c slots)) ∧ CastHole slots

section

variable {cs before after : List Char} {ts : List Token}

theorem ExposedChars.rest (h : ExposedChars (before ++ '\x7b' :: '\x7d' :: after)) :
    ExposedChars after := by
  rintro b a rfl
  have hmode : modeFrom .outside (before ++ '\x7b' :: '\x7d' :: b) = modeFrom .outside b := by
    rw [modeFrom_append, (h before _ rfl).1]
    rfl
  obtain ⟨hm, hlast, htail⟩ := h (before ++ '\x7b' :: '\x7d' :: b) a (by simp)
  rw [List.append_cons, List.append_cons] at hlast
  exact ⟨hmode ▸ hm, getLast?_ne_of_append hlast, htail⟩

theorem exists_first_placeholder (h : holdsPlaceholder cs = true) :
    ∃ before after, cs = before ++ '\x7b' :: '\x7d' :: after ∧
      holdsPlaceholder (before ++ ['\x7b']) = false := by
  fun_induction holdsPlaceholder cs with
  | case1 rest => exact ⟨[], rest, rfl, rfl⟩
  | case2 c rest hne ih =>
    obtain ⟨before, after, rfl, hbefore⟩ := ih h
    refine ⟨c :: before, after, rfl, ?_⟩
    rw [List.cons_append, holdsPlaceholder.eq_2 _ _ ?_, hbefore]
    intro more hc hmore
    cases before with
    | nil => cases hmore
    | cons d before =>
      obtain ⟨rfl, -⟩ := List.cons.inj hmore
      exact hne _ hc rfl
  | case3 => cases h

theorem countPlaceholders_of_not_holds (h : holdsPlaceholder cs = false) :
    countPlaceholders cs = 0 := by
  fun_induction holdsPlaceholder cs with
  | case1 => cases h
  | case2 c rest hne ih => rw [countPlaceholders.eq_2 _ _ hne, ih h]
  | case3 => rfl

theorem countPlaceholders_placeholder (h : holdsPlaceholder (before ++ ['\x7b']) = false)
    (after : List Char) :
    countPlaceholders (before ++ '\x7b' :: '\x7d' :: after) = countPlaceholders after + 1 := by
  induction before with
  | nil => rfl
  | cons c before ih =>
    obtain ⟨hbefore, hne⟩ := holdsPlaceholder_tail h
    rw [List.cons_append, countPlaceholders.eq_2 _ _ fun more hc h => hne after more ⟨hc, h⟩,
      ih hbefore]

/-! ## Tokens -/

/-- What a column is put before does not start with a backtick. -/
theorem stopsAt_fillChars (column : List Char) (hhead : after.head? ≠ some '`')
    (hplaceholder : ¬ ['\x7b', '\x7d'] <+: after) :
    StopsAt (· == '`') (fillChars column after) := by
  cases after with
  | nil => exact stopsAt_nil _
  | cons c rest =>
    have hne : ∀ more, c = '\x7b' → ¬ rest = '\x7d' :: more := by
      rintro more rfl rfl
      exact hplaceholder ⟨more, rfl⟩
    rw [fillChars.eq_2 _ _ _ hne]
    refine stopsAt_cons _ (beq_eq_false_iff_ne.2 ?_)
    rintro rfl
    exact hhead rfl

/-- The tokens of a text up to its first placeholder, the column, and the tokens after it. -/
theorem lexes_fill_iff (h : ExposedChars (before ++ '\x7b' :: '\x7d' :: after))
    (hbefore : holdsPlaceholder (before ++ ['\x7b']) = false) (c : String) :
    Lexes (fillChars (quoteName c).toList (before ++ '\x7b' :: '\x7d' :: after)) ts ↔
      ∃ us vs, ts = us ++ .name c :: vs ∧ Lexes before us ∧
        Lexes (fillChars (quoteName c).toList after) vs := by
  obtain ⟨hmode, hlast, hhead, hplaceholder⟩ := h before after rfl
  obtain ⟨body, hname, hread⟩ := exists_quoteName_eq c
  have hblank : ('`' :: (body ++ fillChars (quoteName c).toList after)).dropWhile isBlank =
      '`' :: (body ++ fillChars (quoteName c).toList after) :=
    dropWhile_of_stopsAt (stopsAt_cons _ (by decide +kernel))
  have hafter := hread (stopsAt_fillChars (quoteName c).toList hhead hplaceholder)
  rw [fillChars_placeholder hbefore, hname, List.cons_append, ← hname, lexes_append_iff hmode hlast]
  simp only [lexes_iff_of_ok hblank hafter]
  constructor
  · rintro ⟨us, _, rfl, hus, vs, rfl, hvs⟩
    exact ⟨us, vs, rfl, hus, hvs⟩
  · rintro ⟨us, vs, rfl, hus, hvs⟩
    exact ⟨us, _, rfl, hus, vs, rfl, hvs⟩

theorem named_map_some (c : String) (ts : List Token) : named c (ts.map some) = ts := by
  rw [named, List.map_map]
  exact List.map_id ts

theorem count_map_some (ts : List Token) : (ts.map some).count none = 0 := by
  refine List.count_eq_zero.2 fun h => ?_
  obtain ⟨t, -, ht⟩ := List.mem_map.1 h
  cases ht

/-- The tokens of a text are the same for every column, but for the column in the places of the
placeholders. -/
theorem exists_slots_chars (h : ExposedChars cs) :
    (∃ slots : List (Option Token), slots.count none = countPlaceholders cs ∧
      ∀ c, Lexes (fillChars (quoteName c).toList cs) (named c slots)) ∨
    ∀ c ts, ¬ Lexes (fillChars (quoteName c).toList cs) ts := by
  induction hlength : cs.length using Nat.strongRecOn generalizing cs with
  | ind n ih =>
  subst hlength
  cases hholds : holdsPlaceholder cs with
  | false =>
    simp only [fillChars_of_not_holds hholds, countPlaceholders_of_not_holds hholds]
    by_cases hts : ∃ ts, Lexes cs ts
    · obtain ⟨ts, hts⟩ := hts
      exact .inl ⟨ts.map some, count_map_some ts, fun c => (named_map_some c ts).symm ▸ hts⟩
    · exact .inr fun c ts h => hts ⟨ts, h⟩
  | true =>
    obtain ⟨before, after, rfl, hbefore⟩ := exists_first_placeholder hholds
    simp only [lexes_fill_iff h hbefore, countPlaceholders_placeholder hbefore]
    by_cases hus : ∃ us, Lexes before us
    · obtain ⟨us, hus⟩ := hus
      rcases ih after.length (by simp; omega) h.rest rfl with ⟨slots, hcount, hslots⟩ | hnone
      · refine .inl ⟨us.map some ++ none :: slots, ?_, fun c =>
          ⟨us, named c slots, ?_, hus, hslots c⟩⟩
        · rw [List.count_append, List.count_cons_self, count_map_some, hcount, Nat.zero_add]
        · rw [named, List.map_append, List.map_cons, ← named, ← named, named_map_some]
          rfl
      · refine .inr fun c ts h => ?_
        obtain ⟨-, vs, -, -, hvs⟩ := h
        exact hnone c vs hvs
    · refine .inr fun c ts h => ?_
      obtain ⟨us, -, -, h, -⟩ := h
      exact hus ⟨us, h⟩

end

/-! ## Texts -/

section

variable {text : String}

theorem hasTokens_fill_iff {c : String} {ts : List Token} :
    HasTokens (fill c text) ts ↔ Lexes (fillChars c.toList text.toList) ts := by
  rw [HasTokens, ← tokens_ok_iff, fill, String.toList_ofList]

theorem exists_slots (h : Exposed text) :
    (∃ slots : List (Option Token), slots.count none = countPlaceholders text.toList ∧
      ∀ c, HasTokens (fill (quoteName c) text) (named c slots)) ∨
    ∀ c ts, ¬ HasTokens (fill (quoteName c) text) ts := by
  simp only [hasTokens_fill_iff]
  exact exists_slots_chars h

/-- A text without tokens cannot be read. -/
theorem parse_of_not_hasTokens (h : ∀ ts, ¬ HasTokens text ts) :
    ∃ o fault, parsePredicate text = .error (.syntaxFault o (.lexical fault)) ∧
      parseRedaction text = .error (.syntaxFault o (.lexical fault)) := by
  cases htokens : tokens text with
  | ok result => exact absurd ⟨result.1, result.2, htokens, rfl⟩ (h _)
  | error e =>
    obtain ⟨o, fault⟩ := e
    have hstart : start text = .error (.syntaxFault o (.lexical fault)) := by rw [start, htokens]
    exact ⟨o, fault, by rw [parsePredicate, hstart]; rfl, by rw [parseRedaction, hstart]; rfl⟩

/-- That what is read for the columns is one tree with the column put in, or that nothing is read
for any of them, and for the same reason. -/
def ReadsAlike {α : Type} (rename : String → String → α → α)
    (read : String → Except ExprError α) : Prop :=
  (∃ c a, ∀ d, read d = .ok (rename c d a)) ∨
    ∀ c d, ∃ e e', read c = .error e ∧ read d = .error e' ∧ SameError e e'

/-- It is enough to compare with one column. -/
theorem readsAlike_of_alike {α : Type} {rename : String → String → α → α}
    {read : String → Except ExprError α} {c : String}
    (h : ∀ d, Alike SameError (fun a b => b = rename c d a) (read c) (read d)) :
    ReadsAlike rename read := by
  generalize read c = result at h
  cases result with
  | ok a =>
    refine .inl ⟨c, a, fun d => ?_⟩
    obtain ⟨b, hb, rfl⟩ := (h d).exists_of_ok
    exact hb
  | error e =>
    refine .inr fun d d' => ?_
    obtain ⟨f, hf, hsame⟩ := (h d).exists_of_error
    obtain ⟨f', hf', hsame'⟩ := (h d').exists_of_error
    exact ⟨f, f', hf, hf', hsame.symm.trans hsame'⟩

/-- What a template says is the same for every column, but for the column itself. -/
theorem read_filled_alike (h : Exposed text) :
    ((∃ slots : List (Option Token), slots.count none = countPlaceholders text.toList ∧
        ∀ c, HasTokens (fill (quoteName c) text) (named c slots)) ∨
      ∀ c ts, ¬ HasTokens (fill (quoteName c) text) ts) ∧
    (¬ CastTarget text →
      ReadsAlike Predicate.rename (fun c => parsePredicate (fill (quoteName c) text)) ∧
      ReadsAlike Redaction.rename (fun c => parseRedaction (fill (quoteName c) text))) := by
  refine ⟨exists_slots h, fun hcast => ?_⟩
  rcases exists_slots h with ⟨slots, -, hslots⟩ | hnone
  · have hhole : ¬ CastHole slots := fun hs => hcast ⟨slots, hslots, hs⟩
    -- a column that the template does not name marks the places of the others
    obtain ⟨c, hc⟩ := exists_absent slots
    exact ⟨readsAlike_of_alike fun d => parsePredicate_alike hhole hc (hslots c) (hslots d),
      readsAlike_of_alike fun d => parseRedaction_alike hhole hc (hslots c) (hslots d)⟩
  · refine ⟨.inr fun c d => ?_, .inr fun c d => ?_⟩
    all_goals
      obtain ⟨o, fault, hp, hr⟩ := parse_of_not_hasTokens (hnone c)
      obtain ⟨o', fault', hp', hr'⟩ := parse_of_not_hasTokens (hnone d)
    · exact ⟨_, _, hp, hp', .unread⟩
    · exact ⟨_, _, hr, hr', .unread⟩

/-- A constant that is put into a column is put into any other as well. -/
theorem read_filled_alike_constant :
    Exposed "'x' AS \x7b\x7d" ∧ ¬ CastTarget "'x' AS \x7b\x7d" ∧
    ReadsAlike Redaction.rename
      (fun c => parseRedaction (fill (quoteName c) "'x' AS \x7b\x7d")) := by
  have hexposed : Exposed "'x' AS \x7b\x7d" := by decide
  have htokens : HasTokens (fill (quoteName "a") "'x' AS \x7b\x7d")
      [.text "x", .word "AS", .name "a"] := ⟨_, _, rfl, rfl⟩
  have hcast : ¬ CastTarget "'x' AS \x7b\x7d" := by
    rintro ⟨slots, hslots, before, inner, after, cast, into, rfl, -⟩
    have hmem : Token.openParen ∈ [Token.text "x", .word "AS", .name "a"] := by
      rw [← (hslots "a").eq htokens]
      exact List.mem_map.2 ⟨some .openParen, by simp, rfl⟩
    revert hmem
    decide
  exact ⟨hexposed, hcast, ((read_filled_alike hexposed).2 hcast).2⟩

end

end Quarantine
