import Quarantine.Proofs.Json.ReadBack
import Quarantine.Storage.Rows

/-!
# Rows read back

A row is written as one line: its compact form holds no character below the space.

    lines (render rows)                          = the rows, each in its compact form
    ofBytes (decoded parse?) (render rows).bytes = the items of the rows, if each is read back
-/

namespace Quarantine

open Quarantine.Decimal Quarantine.Json Quarantine.Text

/-! ## One line for a value -/

namespace Json

theorem hexDigit_ge : ∀ n < 16, 0x20 ≤ (hexDigit n).toNat := by decide

theorem ge_of_mem_escape {c d : Char} (hc : 0x20 ≤ c.toNat) (h : d ∈ ['\\', c]) :
    0x20 ≤ d.toNat := by
  rcases List.mem_cons.1 h with rfl | h
  · decide
  · rw [List.mem_singleton.1 h]
    exact hc

theorem ge_of_mem_escapeChar {c d : Char} (h : d ∈ escapeChar c) : 0x20 ≤ d.toNat := by
  unfold escapeChar at h
  split at h
  · exact ge_of_mem_escape (by decide) h
  split at h
  · exact ge_of_mem_escape (by decide) h
  split at h
  · exact ge_of_mem_escape (by decide) h
  split at h
  · exact ge_of_mem_escape (by decide) h
  split at h
  · exact ge_of_mem_escape (by decide) h
  split at h
  · exact ge_of_mem_escape (by decide) h
  split at h
  · exact ge_of_mem_escape (by decide) h
  split at h
  · next hlow =>
    have high := hexDigit_ge (c.toNat / 16) (by omega)
    have low := hexDigit_ge (c.toNat % 16) (by omega)
    simp only [List.mem_cons, List.not_mem_nil, or_false] at h
    rcases h with rfl | rfl | rfl | rfl | rfl | rfl
    · decide
    · decide
    · decide
    · decide
    · exact high
    · exact low
  · next hlow =>
    rw [List.mem_singleton.1 h]
    omega

theorem ge_of_mem_quotedChars {s : String} {c : Char} (h : c ∈ quotedChars s) :
    0x20 ≤ c.toNat := by
  rcases List.mem_cons.1 h with rfl | h
  · decide
  · rcases List.mem_append.1 h with h | h
    · obtain ⟨d, -, hd⟩ := List.mem_flatMap.1 h
      exact ge_of_mem_escapeChar hd
    · rw [List.mem_singleton.1 h]
      decide

theorem ge_of_isDigit {c : Char} (h : c.isDigit = true) : 0x20 ≤ c.toNat := by
  simp only [Char.isDigit, Bool.and_eq_true, decide_eq_true_eq, ge_iff_le,
    UInt32.le_iff_toNat_le] at h
  have h48 : 48 ≤ c.toNat := h.1
  omega

theorem ge_of_mem_number {n : Number} (hn : n.isWhole = true) {c : Char} (h : c ∈ n.chars) :
    0x20 ≤ c.toNat := by
  cases n with
  | natural n => exact ge_of_isDigit (isDigit_of_mem_toDigits h)
  | negative n =>
    rcases List.mem_cons.1 h with rfl | h
    · decide
    · exact ge_of_isDigit (isDigit_of_mem_toDigits h)
  | binary x => exact absurd hn Bool.false_ne_true

theorem mem_commaed {c : Char} {xs : List (List Char)} (h : c ∈ commaed xs) :
    c = ',' ∨ ∃ x ∈ xs, c ∈ x := by
  induction xs with
  | nil => exact absurd h List.not_mem_nil
  | cons x rest ih =>
    cases rest with
    | nil => exact .inr ⟨x, List.mem_cons_self, h⟩
    | cons y rest =>
      rw [commaed] at h
      rcases List.mem_append.1 h with h | h
      · exact .inr ⟨x, List.mem_cons_self, h⟩
      · rcases List.mem_cons.1 h with rfl | h
        · exact .inl rfl
        · rcases ih h with h | ⟨z, hz, h⟩
          · exact .inl h
          · exact .inr ⟨z, List.mem_cons_of_mem _ hz, h⟩
      · exact fun he => List.cons_ne_nil _ _ he

theorem itemChars_eq_map (items : List Value) : itemChars items = items.map Value.chars := by
  induction items with
  | nil => rfl
  | cons v rest ih => rw [itemChars, ih, List.map_cons]

theorem fieldChars_eq_map (fields : List (String × Value)) :
    fieldChars fields = fields.map fun f => quotedChars f.1 ++ ':' :: f.2.chars := by
  induction fields with
  | nil => rfl
  | cons f rest ih =>
    obtain ⟨name, v⟩ := f
    rw [fieldChars, ih, List.map_cons]

theorem ge_of_all {cs : List Char} (h : (cs.all fun c => decide (0x20 ≤ c.toNat)) = true)
    {c : Char} (hc : c ∈ cs) : 0x20 ≤ c.toNat :=
  of_decide_eq_true (List.all_eq_true.1 h c hc)

/-- A compact form holds no control character. -/
theorem Value.ge_of_mem_chars {v : Value} {depth : Nat} (hf : v.fits depth = true) {c : Char}
    (h : c ∈ v.chars) : 0x20 ≤ c.toNat := by
  induction v using Value.induction generalizing depth with
  | null => exact ge_of_all rfl h
  | bool b =>
    cases b with
    | false => exact ge_of_all rfl h
    | true => exact ge_of_all rfl h
  | number n =>
    have hn : n.isWhole = true := by simpa [Value.fits] using hf
    exact ge_of_mem_number hn (by simpa [Value.chars] using h)
  | string s => exact ge_of_mem_quotedChars (by simpa [Value.chars] using h)
  | array items ih =>
    cases depth with
    | zero => exact absurd hf (by simp [Value.fits])
    | succ depth =>
      have hfits : fitsItems depth items = true := by simpa [Value.fits] using hf
      rw [Value.chars, itemChars_eq_map] at h
      rcases List.mem_cons.1 h with rfl | h
      · decide
      rcases List.mem_append.1 h with h | h
      · rcases mem_commaed h with rfl | ⟨x, hx, h⟩
        · decide
        · obtain ⟨v, hv, rfl⟩ := List.mem_map.1 hx
          exact ih v hv (fitsItems_iff.1 hfits v hv) h
      · rw [List.mem_singleton.1 h]
        decide
  | object fields ih =>
    cases depth with
    | zero => exact absurd hf (by simp [Value.fits])
    | succ depth =>
      have hfits : fitsFields depth fields = true := by simpa [Value.fits] using hf
      rw [Value.chars, fieldChars_eq_map] at h
      rcases List.mem_cons.1 h with rfl | h
      · decide
      rcases List.mem_append.1 h with h | h
      · rcases mem_commaed h with rfl | ⟨x, hx, h⟩
        · decide
        · obtain ⟨f, hfm, rfl⟩ := List.mem_map.1 hx
          rcases List.mem_append.1 h with h | h
          · exact ge_of_mem_quotedChars h
          · rcases List.mem_cons.1 h with rfl | h
            · decide
            · exact ih f hfm (fitsFields_iff.1 hfits f hfm) h
      · rw [List.mem_singleton.1 h]
        decide

theorem isBlank_of_startsNumber {c : Char} (h : startsNumber c = true) : isBlank c = false := by
  have hcode : 0x20 < c.toNat ∧ c.toNat < 0x85 := by
    simp only [startsNumber, Char.isDigit, Bool.or_eq_true, beq_iff_eq, Bool.and_eq_true,
      decide_eq_true_eq, ge_iff_le, UInt32.le_iff_toNat_le] at h
    rcases h with rfl | ⟨h48, h57⟩
    · decide
    · have h48 : 48 ≤ c.toNat := h48
      have h57 : c.toNat ≤ 57 := h57
      omega
  simp only [isBlank, blank, CharSet.contains, CharSet.inRanges]
  grind

/-- A compact form is not blank. -/
theorem Value.allBlank_render {v : Value} {depth : Nat} (h : v.fits depth = true) :
    allBlank v.render = false := by
  obtain ⟨c, cs, hchars, hc⟩ : ∃ c cs, v.chars = c :: cs ∧ isBlank c = false := by
    cases v with
    | null => exact ⟨'n', _, rfl, by decide⟩
    | bool b =>
      cases b
      · exact ⟨'f', _, rfl, by decide⟩
      · exact ⟨'t', _, rfl, by decide⟩
    | number n =>
      have hn : n.isWhole = true := by simpa [Value.fits] using h
      obtain ⟨c, cs, hc, hs⟩ := Number.exists_chars_eq hn
      exact ⟨c, cs, by rw [chars, hc], isBlank_of_startsNumber hs⟩
    | string s => exact ⟨'"', _, rfl, by decide⟩
    | array items => exact ⟨'[', _, by rw [chars], by decide⟩
    | object fields => exact ⟨'\x7b', _, by rw [chars], by decide⟩
  rw [allBlank, render, String.toList_ofList, hchars, List.all_cons, hc]
  rfl

end Json

/-! ## Lines -/

namespace Text

theorem split_append_cons {α : Type} [DecidableEq α] {sep : α} {xs : List α} (h : sep ∉ xs)
    (ys : List α) : split sep (xs ++ sep :: ys) = xs :: split sep ys := by
  induction xs with
  | nil => rw [List.nil_append, split_cons, if_pos rfl]
  | cons x xs ih =>
    have hne : x ≠ sep := fun he => h (he ▸ List.mem_cons_self)
    rw [List.cons_append, split_cons, if_neg hne, ih fun hm => h (List.mem_cons_of_mem _ hm)]
    rfl

theorem split_flatMap {α : Type} [DecidableEq α] {sep : α} {parts : List (List α)}
    (h : ∀ p ∈ parts, sep ∉ p) :
    split sep (parts.flatMap fun p => p ++ [sep]) = parts ++ [[]] := by
  induction parts with
  | nil => rfl
  | cons p parts ih =>
    rw [List.flatMap_cons, List.append_assoc, List.singleton_append,
      split_append_cons (h p List.mem_cons_self), ih fun q hq => h q (List.mem_cons_of_mem _ hq)]
    rfl

theorem linesOfParts_append (parts : List (List Char)) :
    linesOfParts (parts ++ [[]]) = parts.map dropReturn := by
  induction parts with
  | nil => rfl
  | cons p parts ih =>
    rw [List.map_cons, ← ih, List.cons_append]
    cases parts with
    | nil => rfl
    | cons _ _ => rfl

/-- Lines without control characters are found again. -/
theorem lines_join {texts : List String} (h : ∀ s ∈ texts, ∀ c ∈ s.toList, 0x20 ≤ c.toNat) :
    lines (String.join (texts.map fun s => s ++ "\n")) = texts := by
  have hchars : (String.join (texts.map fun s => s ++ "\n")).toList =
      (texts.map String.toList).flatMap fun p => p ++ ['\n'] := by
    rw [String.toList_join, List.flatMap_map, List.flatMap_map]
    simp
  have hsep : ∀ p ∈ texts.map String.toList, '\n' ∉ p := by
    intro p hp hm
    obtain ⟨s, hs, rfl⟩ := List.mem_map.1 hp
    exact absurd (h s hs _ hm) (by decide)
  have hreturn : ∀ s ∈ texts, String.ofList (dropReturn s.toList) = s := by
    intro s hs
    have hlast : s.toList.getLast? ≠ some '\r' := fun he =>
      absurd (h s hs _ (List.mem_of_getLast? he)) (by decide)
    rw [dropReturn, if_neg hlast, String.ofList_toList]
  rw [lines, hchars, split_flatMap hsep, linesOfParts_append, List.map_map, List.map_map]
  calc texts.map ((String.ofList ∘ dropReturn) ∘ String.toList)
      = texts.map id := List.map_congr_left hreturn
    _ = texts := List.map_id texts

end Text

/-! ## Rows -/

namespace Rows

/-- Lines that are taken one by one are taken together. -/
theorem ofLines_map {α : Type} {path : Path} {row : String → Except String α} {text : α → String}
    {items : List α} (hrow : ∀ a ∈ items, row (text a) = .ok a)
    (hblank : ∀ a ∈ items, allBlank (text a) = false) (n : Nat) :
    ofLines path row ((items.map text).zipIdx n) = .ok items := by
  induction items generalizing n with
  | nil => rfl
  | cons a items ih =>
    have hrest := ih (fun b hb => hrow b (List.mem_cons_of_mem _ hb))
      (fun b hb => hblank b (List.mem_cons_of_mem _ hb)) (n + 1)
    rw [List.map_cons, List.zipIdx_cons, ofLines, hblank a List.mem_cons_self]
    simp only [Bool.false_eq_true, if_false, hrow a List.mem_cons_self, hrest]
    rfl

theorem ofLines_decoded {α : Type} {path : Path} {parse? : String → Option α} {text : α → String}
    {items : List α} (hparse : ∀ a ∈ items, parse? (text a) = some a)
    (hblank : ∀ a ∈ items, allBlank (text a) = false) (n : Nat) :
    ofLines path (decoded parse?) ((items.map text).zipIdx n) = .ok items :=
  ofLines_map (fun a ha => by rw [decoded, hparse a ha]) hblank n

theorem fromUTF8?_toUTF8 (s : String) : String.fromUTF8? s.toUTF8 = some s :=
  dif_pos s.isValidUTF8

/-- A line that is refused is the end of reading. -/
theorem ofLines_refused {α : Type} {path : Path} {parse? : String → Option α} {text : α → String}
    {items : List α} (hblank : ∀ a ∈ items, allBlank (text a) = false) {a : α} (ha : a ∈ items)
    (hnone : parse? (text a) = none) (n : Nat) :
    ∃ e, ofLines path (decoded parse?) ((items.map text).zipIdx n) = .error e := by
  induction items generalizing n with
  | nil => exact absurd ha List.not_mem_nil
  | cons b items ih =>
    rw [List.map_cons, List.zipIdx_cons, ofLines, hblank b List.mem_cons_self]
    cases hb : parse? (text b) with
    | none =>
      refine ⟨malformed path n jsonReason, ?_⟩
      simp only [Bool.false_eq_true, if_false, decoded, hb]
    | some x =>
      have hrest : a ∈ items := by
        rcases List.mem_cons.1 ha with rfl | ha
        · rw [hnone] at hb
          cases hb
        · exact ha
      obtain ⟨e, he⟩ := ih (fun c hc => hblank c (List.mem_cons_of_mem _ hc)) hrest (n + 1)
      refine ⟨e, ?_⟩
      have hdecoded : decoded parse? (text b) = .ok x := by rw [decoded, hb]
      simp only [Bool.false_eq_true, if_false, hdecoded, he]
      rfl

section

variable {α : Type} {path : Path} {parse? : String → Option α} {toValue : α → Value}
variable {items : List α}

theorem lines_render (hfits : ∀ a ∈ items, ∃ depth, (toValue a).fits depth = true) :
    lines (render (items.map toValue)) = items.map fun a => (toValue a).render := by
  have hline : ∀ s ∈ items.map fun a => (toValue a).render, ∀ c ∈ s.toList, 0x20 ≤ c.toNat := by
    intro s hs c hc
    obtain ⟨a, ha, rfl⟩ := List.mem_map.1 hs
    obtain ⟨depth, hdepth⟩ := hfits a ha
    rw [Value.render, String.toList_ofList] at hc
    exact Value.ge_of_mem_chars hdepth hc
  have hlines := lines_join hline
  rw [List.map_map] at hlines
  rw [render, List.map_map]
  exact hlines

theorem allBlank_render (hfits : ∀ a ∈ items, ∃ depth, (toValue a).fits depth = true) :
    ∀ a ∈ items, allBlank (toValue a).render = false := by
  intro a ha
  obtain ⟨depth, hdepth⟩ := hfits a ha
  exact Value.allBlank_render hdepth

theorem ofBytes_render_eq (hfits : ∀ a ∈ items, ∃ depth, (toValue a).fits depth = true) :
    ofBytes path (decoded parse?) (render (items.map toValue)).toUTF8 =
      ofLines path (decoded parse?) ((items.map fun a => (toValue a).render).zipIdx 1) := by
  rw [ofBytes, fromUTF8?_toUTF8]
  show ofText _ _ _ = _
  rw [ofText, lines_render hfits]

/-- The items of written rows. -/
theorem ofBytes_render (hparse : ∀ a ∈ items, parse? (toValue a).render = some a)
    (hfits : ∀ a ∈ items, ∃ depth, (toValue a).fits depth = true) :
    ofBytes path (decoded parse?) (render (items.map toValue)).toUTF8 = .ok items := by
  rw [ofBytes_render_eq hfits]
  exact ofLines_decoded hparse (allBlank_render hfits) 1

/-- Written rows one of which is refused. -/
theorem ofBytes_refused (hfits : ∀ a ∈ items, ∃ depth, (toValue a).fits depth = true) {a : α}
    (ha : a ∈ items)
    (hnone : parse? (toValue a).render = none) :
    ∃ e, ofBytes path (decoded parse?) (render (items.map toValue)).toUTF8 = .error e := by
  rw [ofBytes_render_eq hfits]
  exact ofLines_refused (allBlank_render hfits) ha hnone 1

end

end Rows
end Quarantine
