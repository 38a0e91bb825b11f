import Quarantine.Rule.Template

/-!
# Filling in, part by part

A text without a placeholder stays as it is, and what comes before the first placeholder is
followed by the column.

    fill x (before ++ placeholder ++ after) = before ++ x ++ after, if there are no others
-/

namespace Quarantine

theorem fillChars_of_not_holds {column cs : List Char} (h : holdsPlaceholder cs = false) :
    fillChars column cs = cs := by
  fun_induction holdsPlaceholder cs with
  | case1 => cases h
  | case2 c rest hne ih => rw [fillChars.eq_2 _ _ _ hne, ih h]
  | case3 => rfl

theorem toList_placeholder : placeholder.toList = ['\x7b', '\x7d'] := by decide +kernel

/-- A placeholder does not go across a quotation mark. -/
theorem holdsPlaceholder_append_quote (cs ds : List Char) :
    holdsPlaceholder (cs ++ '"' :: ds) = (holdsPlaceholder cs || holdsPlaceholder ds) := by
  fun_induction holdsPlaceholder cs with
  | case1 rest => rfl
  | case2 c rest hne ih =>
    rw [List.cons_append, holdsPlaceholder.eq_2 _ _ ?_, ih]
    intro more hc hmore
    cases rest with
    | nil => cases hmore
    | cons d rest =>
      obtain ⟨rfl, -⟩ := List.cons.inj hmore
      exact hne rest hc rfl
  | case3 => rfl

/-- No placeholder starts with the first character, if none starts before the end. -/
theorem holdsPlaceholder_tail {c : Char} {cs : List Char}
    (h : holdsPlaceholder (c :: cs ++ ['\x7b']) = false) :
    holdsPlaceholder (cs ++ ['\x7b']) = false ∧
      ∀ rest more, ¬ (c = '\x7b' ∧ cs ++ '\x7b' :: '\x7d' :: rest = '\x7d' :: more) := by
  have hne (rest more : List Char) :
      ¬ (c = '\x7b' ∧ cs ++ '\x7b' :: '\x7d' :: rest = '\x7d' :: more) := by
    rintro ⟨rfl, hcs⟩
    cases cs with
    | nil => cases hcs
    | cons d cs =>
      obtain ⟨rfl, -⟩ := List.cons.inj hcs
      cases h
  refine ⟨?_, hne⟩
  rw [List.cons_append, holdsPlaceholder] at h
  · exact h
  · intro more hc hcs
    cases cs with
    | nil => cases hcs
    | cons d cs =>
      obtain ⟨rfl, -⟩ := List.cons.inj hcs
      exact hne [] _ ⟨hc, rfl⟩

/-- The first placeholder is where the characters before it end. -/
theorem fillChars_placeholder {column cs : List Char}
    (h : holdsPlaceholder (cs ++ ['\x7b']) = false) (rest : List Char) :
    fillChars column (cs ++ '\x7b' :: '\x7d' :: rest) =
      cs ++ (column ++ fillChars column rest) := by
  induction cs with
  | nil => rfl
  | cons c cs ih =>
    obtain ⟨hcs, hne⟩ := holdsPlaceholder_tail h
    rw [List.cons_append, fillChars.eq_2 _ _ _ (fun more hc h => hne rest more ⟨hc, h⟩), ih hcs]
    rfl

/-- A text with one placeholder. -/
theorem fill_between (column : String) {before after : String}
    (hbefore : holdsPlaceholder (before.toList ++ ['\x7b']) = false)
    (hafter : holdsPlaceholder after.toList = false) :
    fill column (before ++ placeholder ++ after) = before ++ column ++ after := by
  rw [fill, String.toList_append, String.toList_append, toList_placeholder, List.append_assoc]
  refine (congrArg String.ofList (fillChars_placeholder hbefore after.toList)).trans ?_
  rw [fillChars_of_not_holds hafter, String.ofList_append, String.ofList_append,
    String.ofList_toList, String.ofList_toList, String.ofList_toList, String.append_assoc]

theorem fill_last (column : String) {before : String}
    (hbefore : holdsPlaceholder (before.toList ++ ['\x7b']) = false) :
    fill column (before ++ placeholder) = before ++ column := by
  have h : fill column (before ++ placeholder ++ "") = before ++ column ++ "" :=
    fill_between column hbefore (by decide +kernel)
  rwa [String.append_empty, String.append_empty] at h

/-- A text with a second placeholder at its end. -/
theorem fill_between_and_last (column : String) {before after : String}
    (hbefore : holdsPlaceholder (before.toList ++ ['\x7b']) = false)
    (hafter : holdsPlaceholder (after.toList ++ ['\x7b']) = false) :
    fill column (before ++ placeholder ++ after ++ placeholder) =
      before ++ column ++ after ++ column := by
  rw [fill, String.toList_append, String.toList_append, String.toList_append, toList_placeholder,
    List.append_assoc, List.append_assoc]
  refine (congrArg String.ofList
    (fillChars_placeholder hbefore (after.toList ++ ['\x7b', '\x7d']))).trans ?_
  rw [fillChars_placeholder hafter []]
  simp only [String.ofList_append, String.ofList_toList, fillChars, String.append_assoc,
    List.append_nil]

end Quarantine
