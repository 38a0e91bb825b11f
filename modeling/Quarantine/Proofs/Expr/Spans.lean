import Quarantine.Proofs.Expr.Accepted

/-!
# Spans of tokens

A text that has tokens is made of spans, one for each token, and of blanks.  Nothing is skipped but
blanks, and no character is read twice: the spans stand one behind the other, and every character
that is in none of them is blank.

    Laid o cs spans    the characters cs, from byte o on, are the spans with blanks around them
    laid_of_tokens     a text that has tokens is laid out in spans, each at the place of its token
    Laid.insert        blanks that are put in outside the spans leave the tokens as they are
-/

namespace Quarantine

open Quarantine.Decimal Quarantine.Text

/-! ## Bytes -/

namespace Expr

theorem byteLength_pos {cs : List Char} (h : cs ≠ []) : 0 < byteLength cs := by
  obtain ⟨c, rest, rfl⟩ := List.exists_cons_of_ne_nil h
  have := c.utf8Size_pos
  rw [byteLength]
  omega

/-- Of two beginnings of a text, the one with fewer bytes is a beginning of the other. -/
theorem cut_of_byteLength_le {a b c d : List Char} (h : a ++ b = c ++ d)
    (hle : byteLength a ≤ byteLength c) : ∃ mid, c = a ++ mid ∧ b = mid ++ d := by
  rcases List.append_eq_append_iff.1 h with ⟨mid, hc, hb⟩ | ⟨mid, ha, hd⟩
  · exact ⟨mid, hc, hb⟩
  · rw [ha, byteLength_append] at hle
    cases mid with
    | nil => exact ⟨[], by rw [ha, List.append_nil, List.append_nil], hd.symm⟩
    | cons e mid =>
      have := byteLength_pos (List.cons_ne_nil e mid)
      omega

theorem byteLength_ofList (cs : List Char) : (String.ofList cs).utf8ByteSize = byteLength cs := by
  induction cs with
  | nil => rfl
  | cons c cs ih =>
    rw [String.ofList_cons, String.utf8ByteSize_append, String.utf8ByteSize_singleton, ih,
      byteLength]

theorem byteLength_toList (s : String) : byteLength s.toList = s.utf8ByteSize := by
  rw [← byteLength_ofList, String.ofList_toList]

end Expr

/-! ## Blanks -/

/-- The code points of a set of characters. -/
def Text.CharSet.codes (s : CharSet) : List Nat :=
  s.ranges.flatMap fun r => List.range' r.1 (r.2 + 1 - r.1)

theorem Text.CharSet.mem_codes {s : CharSet} {c : Char} (h : s.contains c = true) :
    c.toNat ∈ s.codes := by
  obtain ⟨ranges⟩ := s
  unfold contains at h
  unfold codes
  dsimp only at h ⊢
  induction ranges with
  | nil => cases h
  | cons r rest ih =>
    obtain ⟨lo, hi⟩ := r
    unfold inRanges at h
    split at h
    · cases h
    · rw [List.flatMap_cons, List.mem_append]
      rcases Bool.or_eq_true_iff.1 h with hhi | hrest
      · left
        have := of_decide_eq_true hhi
        rw [List.mem_range'_1]
        omega
      · exact .inr (ih hrest)

namespace Expr

/-- A blank is no part of a word or a number, and no backtick. -/
theorem isBlank_apart {c : Char} (h : isBlank c = true) :
    isWordChar c = false ∧ c.isDigit = false ∧ (c == '`') = false := by
  have hall : ∀ n ∈ blank.codes, isWordChar (Char.ofNat n) = false ∧
      (Char.ofNat n).isDigit = false ∧ (Char.ofNat n == '`') = false := by decide +kernel
  have hc := hall c.toNat (CharSet.mem_codes h)
  rwa [Char.ofNat_toNat] at hc

/-- A token still ends where it did when blanks are put in behind it. -/
theorem Token.Ends.insert {t : Token} {front blanks back : List Char}
    (hends : t.Ends (front ++ back)) (h : blanks.all isBlank = true) :
    t.Ends (front ++ (blanks ++ back)) := by
  cases front with
  | cons c front => cases t <;> exact hends
  | nil =>
    cases blanks with
    | nil => exact hends
    | cons c blanks =>
      rw [List.all_cons, Bool.and_eq_true] at h
      obtain ⟨hword, hdigit, hname⟩ := isBlank_apart h.1
      cases t with
      | word s => exact stopsAt_cons _ hword
      | number n => exact stopsAt_cons _ hdigit
      | name s => exact stopsAt_cons _ hname
      | _ => trivial

theorem Lexes.of_blank {cs : List Char} (h : cs.all isBlank = true) : Lexes cs [] := by
  have hdrop := dropWhile_append_of_stopsAt (List.all_eq_true.1 h) (stopsAt_nil isBlank)
  rw [List.append_nil] at hdrop
  exact .nil hdrop

/-- A token behind blanks. -/
theorem Lexes.gap {gap rest more : List Char} {c : Char} {t : Token} {ts : List Token}
    (hgap : gap.all isBlank = true) (hinked : isBlank c = false)
    (hread : readToken c rest = .ok (t, more)) (hmore : Lexes more ts) :
    Lexes (gap ++ c :: rest) (t :: ts) :=
  .cons (dropWhile_append_of_stopsAt (List.all_eq_true.1 hgap) (stopsAt_cons _ hinked)) hread hmore

end Expr

/-! ## Texts in spans -/

namespace Expr

/-- The characters that a token is read from, and the byte where they start. -/
structure Span where
  start : Nat
  chars : List Char
  token : Token

namespace Span

/-- The byte behind the characters. -/
def stop (s : Span) : Nat := s.start + byteLength s.chars

def lexeme (s : Span) : Lexeme := ⟨s.start, s.token⟩

/-- That a byte is not inside the characters. -/
def Outside (s : Span) (place : Nat) : Prop := place ≤ s.start ∨ s.stop ≤ place

/-- That a token is read from these characters of a text, and they stand where the span starts. -/
def ReadFrom (s : Span) (cs : List Char) : Prop :=
  ∃ front c body back, s.chars = c :: body ∧ cs = front ++ (s.chars ++ back) ∧
    byteLength front = s.start ∧ readToken c (body ++ back) = .ok (s.token, back)

end Span

/-- That characters, the first of which is at byte `o`, are these spans with blanks around them. -/
inductive Laid : Nat → List Char → List Span → Prop
  | nil {o : Nat} {cs : List Char} (blank : cs.all isBlank = true) : Laid o cs []
  | cons {o : Nat} {gap : List Char} {c : Char} {body more : List Char} {t : Token}
    {spans : List Span} (blank : gap.all isBlank = true) (inked : isBlank c = false)
    (read : readToken c (body ++ more) = .ok (t, more))
    (rest : Laid (o + byteLength (gap ++ c :: body)) more spans) :
    Laid o (gap ++ (c :: body ++ more)) (⟨o + byteLength gap, c :: body, t⟩ :: spans)

section

variable {o : Nat} {cs front back : List Char} {spans : List Span}

theorem laid_of_tokensFrom {fuel stop : Nat} {ls : List Lexeme} (hfuel : cs.length < fuel)
    (h : tokensFrom fuel o cs = .ok (ls, stop)) :
    ∃ spans, Laid o cs spans ∧ spans.map Span.lexeme = ls ∧ stop = o + byteLength cs := by
  induction fuel generalizing cs o ls stop with
  | zero => omega
  | succ fuel ih =>
    have hgap : (cs.takeWhile isBlank).all isBlank = true := List.all_takeWhile
    have hsplit := List.takeWhile_append_dropWhile (p := isBlank) (l := cs)
    rw [tokensFrom] at h
    dsimp only at h
    split at h
    · next hdrop =>
      obtain ⟨rfl, rfl⟩ := Prod.mk.inj (Except.ok.inj h)
      rw [hdrop, List.append_nil] at hsplit
      rw [hsplit] at hgap ⊢
      exact ⟨[], .nil hgap, rfl, rfl⟩
    · next c rest hdrop =>
      have hinked : isBlank c = false := by
        have hhead := List.head?_dropWhile_not isBlank cs
        rwa [hdrop] at hhead
      rw [hdrop] at hsplit
      split at h
      · cases h
      · next t more hread =>
        obtain ⟨-, body, rfl, -⟩ := exists_readToken hread
        have hlength := congrArg List.length hsplit
        simp only [List.length_append, List.length_cons] at hlength
        have htake : (c :: (body ++ more)).take ((body ++ more).length + 1 - more.length) =
            c :: body := by
          rw [← List.cons_append]
          refine List.take_left' ?_
          rw [List.length_append, List.length_cons]
          omega
        rw [htake] at h
        split at h
        · cases h
        · next ls' stop' hls =>
          obtain ⟨rfl, rfl⟩ := Prod.mk.inj (Except.ok.inj h)
          obtain ⟨spans, hlaid, rfl, rfl⟩ := ih (by omega) hls
          rw [Nat.add_assoc, ← byteLength_append] at hlaid
          have hall := Laid.cons hgap hinked hread hlaid
          rw [List.cons_append, hsplit] at hall
          have hbytes := congrArg byteLength hsplit
          rw [← List.cons_append, byteLength_append, byteLength_append] at hbytes
          exact ⟨_, hall, rfl, by omega⟩

/-- A text that has tokens is laid out in spans, each at the place of its token. -/
theorem laid_of_tokens {text : String} {ls : List Lexeme} {stop : Nat}
    (h : tokens text = .ok (ls, stop)) :
    ∃ spans, Laid 0 text.toList spans ∧ spans.map Span.lexeme = ls ∧ stop = text.utf8ByteSize := by
  obtain ⟨spans, hlaid, hls, hstop⟩ := laid_of_tokensFrom (Nat.lt_succ_self _) h
  rw [Nat.zero_add, byteLength_toList] at hstop
  exact ⟨spans, hlaid, hls, hstop⟩

namespace Laid

/-- Spans lie within the text, and none is empty. -/
theorem within (h : Laid o cs spans) :
    ∀ s ∈ spans, o ≤ s.start ∧ s.start < s.stop ∧ s.stop ≤ o + byteLength cs := by
  induction h with
  | nil blank => exact fun s hs => absurd hs List.not_mem_nil
  | @cons o gap c body more t spans blank inked read rest ih =>
    have hpos := byteLength_pos (List.cons_ne_nil c body)
    intro s hs
    rw [byteLength_append, byteLength_append]
    rcases List.mem_cons.1 hs with rfl | hs
    · simp only [Span.stop]
      omega
    · obtain ⟨hstart, hne, hstop⟩ := ih s hs
      rw [byteLength_append] at hstart hstop
      omega

/-- Spans stand one behind the other. -/
theorem pairwise (h : Laid o cs spans) : spans.Pairwise fun a b => a.stop ≤ b.start := by
  induction h with
  | nil blank => exact .nil
  | @cons o gap c body more t spans blank inked read rest ih =>
    refine List.pairwise_cons.2 ⟨fun s hs => ?_, ih⟩
    have hstart := (rest.within s hs).1
    rw [byteLength_append] at hstart
    simp only [Span.stop]
    omega

theorem readFrom (h : Laid o cs spans) (before : List Char) (ho : byteLength before = o) :
    ∀ s ∈ spans, s.ReadFrom (before ++ cs) := by
  induction h generalizing before with
  | nil blank => exact fun s hs => absurd hs List.not_mem_nil
  | @cons o gap c body more t spans blank inked read rest ih =>
    intro s hs
    rcases List.mem_cons.1 hs with rfl | hs
    · refine ⟨before ++ gap, c, body, more, rfl, (List.append_assoc _ _ _).symm, ?_, read⟩
      rw [byteLength_append, ho]
    · have hread := ih (before ++ (gap ++ c :: body)) (by rw [byteLength_append, ho]) s hs
      simpa only [List.append_assoc] using hread

/-- A character that is in none of the spans is blank. -/
theorem covered (h : Laid o cs spans) {c : Char} (hcs : cs = front ++ c :: back) :
    isBlank c = true ∨
      ∃ s ∈ spans, s.start ≤ o + byteLength front ∧ o + byteLength front < s.stop := by
  induction h generalizing front with
  | nil blank =>
    left
    rw [hcs] at blank
    exact List.all_eq_true.1 blank c (List.mem_append_right _ List.mem_cons_self)
  | @cons o gap d body more t spans blank inked read rest ih =>
    rcases Nat.lt_or_ge (byteLength front) (byteLength gap) with hgap | hgap
    · left
      obtain ⟨mid, rfl, hmid⟩ := cut_of_byteLength_le hcs.symm (Nat.le_of_lt hgap)
      cases mid with
      | nil =>
        rw [List.append_nil] at hgap
        exact absurd hgap (Nat.lt_irrefl _)
      | cons e mid =>
        obtain ⟨rfl, -⟩ := List.cons.inj hmid
        exact List.all_eq_true.1 blank c (List.mem_append_right _ List.mem_cons_self)
    rcases Nat.lt_or_ge (byteLength front) (byteLength (gap ++ d :: body)) with hspan | hspan
    · refine .inr ⟨_, List.mem_cons_self, ?_, ?_⟩
      all_goals
        rw [byteLength_append] at hspan
        simp only [Span.stop]
        omega
    · rw [← List.append_assoc] at hcs
      obtain ⟨late, rfl, hlate⟩ := cut_of_byteLength_le hcs hspan
      rw [byteLength_append, ← Nat.add_assoc]
      refine (ih hlate).imp_right fun ⟨s, hs, hplace⟩ => ⟨s, List.mem_cons_of_mem _ hs, hplace⟩

theorem lexes (h : Laid o cs spans) : Lexes cs (spans.map Span.token) := by
  induction h with
  | nil blank => exact .of_blank blank
  | cons blank inked read rest ih => exact .gap blank inked read ih

/-- Blanks that are put in outside the spans leave the tokens as they are. -/
theorem insert {blanks : List Char} (h : Laid o cs spans) (hcs : cs = front ++ back)
    (hout : ∀ s ∈ spans, s.Outside (o + byteLength front)) (hblanks : blanks.all isBlank = true) :
    Lexes (front ++ (blanks ++ back)) (spans.map Span.token) := by
  induction h generalizing front with
  | nil blank =>
    rw [hcs, List.all_append, Bool.and_eq_true] at blank
    refine .of_blank ?_
    rw [List.all_append, List.all_append, blank.1, hblanks, blank.2]
    rfl
  | @cons o gap c body more t spans blank inked read rest ih =>
    rcases hout _ List.mem_cons_self with hplace | hplace
    · -- in front of the span
      obtain ⟨mid, rfl, hback⟩ := cut_of_byteLength_le hcs.symm (Nat.le_of_add_le_add_left hplace)
      rw [List.all_append, Bool.and_eq_true] at blank
      have hall : (front ++ (blanks ++ mid)).all isBlank = true := by
        rw [List.all_append, List.all_append, blank.1, hblanks, blank.2]
        rfl
      have hlexes := Lexes.gap hall inked read rest.lexes
      rw [hback]
      simpa only [List.append_assoc, List.cons_append, List.map_cons] using hlexes
    · -- behind it
      have hle : byteLength (gap ++ c :: body) ≤ byteLength front := by
        rw [byteLength_append]
        simp only [Span.stop] at hplace
        omega
      rw [← List.append_assoc] at hcs
      obtain ⟨late, rfl, rfl⟩ := cut_of_byteLength_le hcs hle
      obtain ⟨hends, body', hbody, hread⟩ := exists_readToken read
      obtain rfl := List.append_cancel_right hbody
      have hrest := ih rfl fun s hs => by
        have := hout s (List.mem_cons_of_mem _ hs)
        rwa [byteLength_append, ← Nat.add_assoc] at this
      have hlexes := Lexes.gap blank inked (hread _ (hends.insert hblanks)) hrest
      simpa only [List.append_assoc, List.cons_append, List.map_cons] using hlexes

end Laid

end

/-! ## The spans of a text -/

/-- That a token is read from each of these spans of a text, that they do not overlap, and that all
between them is blank. -/
structure Spanned (text : String) (spans : List Span) : Prop where
  readFrom : ∀ s ∈ spans, s.ReadFrom text.toList
  apart : spans.Pairwise fun a b => a.stop ≤ b.start
  covered : ∀ front c back, text.toList = front ++ c :: back → isBlank c = true ∨
    ∃ s ∈ spans, s.start ≤ byteLength front ∧ byteLength front < s.stop

section

variable {text : String} {ls : List Lexeme} {spans : List Span} {stop : Nat}

theorem Laid.spanned (h : Laid 0 text.toList spans) : Spanned text spans where
  readFrom := h.readFrom [] rfl
  apart := h.pairwise
  covered front c back hcs := by
    have hcovered := h.covered hcs
    rwa [Nat.zero_add] at hcovered

namespace Spanned

theorem isValid (h : Spanned text spans) {s : Span} (hs : s ∈ spans) :
    (String.Pos.Raw.mk s.start).IsValid text := by
  obtain ⟨front, c, body, back, -, htext, hstart, -⟩ := h.readFrom s hs
  refine String.Pos.Raw.isValid_iff_exists_append.2
    ⟨String.ofList front, String.ofList (s.chars ++ back), ?_, ?_⟩
  · rw [← String.ofList_append, ← htext, String.ofList_toList]
  · rw [← hstart, ← byteLength_ofList]
    rfl

end Spanned

/-- The places of tokens ascend, up to the end of the text. -/
theorem Laid.offsets_ascend (h : Laid 0 text.toList spans) :
    ((spans.map Span.lexeme).map Lexeme.offset ++ [text.utf8ByteSize]).Pairwise (· < ·) := by
  have hwithin := h.within
  rw [byteLength_toList, Nat.zero_add] at hwithin
  rw [List.map_map, List.pairwise_append, List.pairwise_map]
  refine ⟨h.pairwise.imp_of_mem fun {a b} ha _ hab => ?_, List.pairwise_singleton _ _, ?_⟩
  · exact Nat.lt_of_lt_of_le (hwithin a ha).2.1 hab
  · intro place hplace stop hstop
    obtain ⟨s, hs, rfl⟩ := List.mem_map.1 hplace
    obtain rfl := List.mem_singleton.1 hstop
    exact Nat.lt_of_lt_of_le (hwithin s hs).2.1 (hwithin s hs).2.2

/-- Blanks that are put in outside the spans leave the tokens as they are. -/
theorem Laid.hasTokens {before blanks after : String} (h : Laid 0 text.toList spans)
    (htext : before ++ after = text) (hout : ∀ s ∈ spans, s.Outside before.utf8ByteSize)
    (hblanks : blanks.toList.all isBlank = true) :
    HasTokens (before ++ blanks ++ after) (spans.map Span.token) := by
  have hcs : text.toList = before.toList ++ after.toList := by rw [← htext, String.toList_append]
  refine tokens_ok_iff.1 ?_
  rw [String.toList_append, String.toList_append, List.append_assoc]
  refine h.insert hcs (fun s hs => ?_) hblanks
  rw [Nat.zero_add, byteLength_toList]
  exact hout s hs

end

end Expr
end Quarantine
