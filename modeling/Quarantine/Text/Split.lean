/-!
# Splitting

A list split at every occurrence of a separator, which belongs to no part; and the lines of a
text, each ended by a line feed or by a carriage return and a line feed.

    join sep (split sep xs) = xs
    no part of split sep xs holds sep
-/

namespace Quarantine.Text

/-- Puts an item in front of the first part. -/
def pushFirst {α : Type} (x : α) : List (List α) → List (List α)
  | part :: rest => (x :: part) :: rest
  | [] => [[x]]

/-- The parts between separators, one more than there are separators. -/
def split {α : Type} [DecidableEq α] (sep : α) (xs : List α) : List (List α) :=
  xs.foldr (fun x parts => if x = sep then [] :: parts else pushFirst x parts) [[]]

/-- Parts with a separator between neighbours. -/
def join {α : Type} (sep : α) : List (List α) → List α
  | [] => []
  | [part] => part
  | part :: rest => part ++ sep :: join sep rest

/-! ## Lines -/

/-- A line without a carriage return at its end. -/
def dropReturn (line : List Char) : List Char :=
  if line.getLast? = some '\r' then line.dropLast else line

/-- The lines that parts between line feeds stand for; nothing after the last line feed is no
line. -/
def linesOfParts : List (List Char) → List (List Char)
  | [] => []
  | [part] => if part.isEmpty then [] else [part]
  | part :: rest => dropReturn part :: linesOfParts rest

def lines (text : String) : List String :=
  (linesOfParts (split '\n' text.toList)).map String.ofList

/-! ## Lemmas -/

theorem split_nil {α : Type} [DecidableEq α] (sep : α) : split sep [] = [[]] := rfl

theorem split_cons {α : Type} [DecidableEq α] (sep x : α) (xs : List α) :
    split sep (x :: xs) =
      if x = sep then [] :: split sep xs else pushFirst x (split sep xs) := rfl

theorem pushFirst_ne_nil {α : Type} (x : α) (parts : List (List α)) : pushFirst x parts ≠ [] := by
  cases parts <;> simp [pushFirst]

theorem split_ne_nil {α : Type} [DecidableEq α] (sep : α) (xs : List α) : split sep xs ≠ [] := by
  cases xs with
  | nil => simp [split_nil]
  | cons x xs =>
    rw [split_cons]
    split
    · simp
    · exact pushFirst_ne_nil x _

theorem join_cons_of_ne_nil {α : Type} (sep : α) (part : List α) {rest : List (List α)}
    (h : rest ≠ []) : join sep (part :: rest) = part ++ sep :: join sep rest := by
  cases rest with
  | nil => exact absurd rfl h
  | cons _ _ => rfl

theorem join_pushFirst {α : Type} (sep x : α) {parts : List (List α)} (h : parts ≠ []) :
    join sep (pushFirst x parts) = x :: join sep parts := by
  cases parts with
  | nil => exact absurd rfl h
  | cons part rest =>
    cases rest with
    | nil => rfl
    | cons _ _ => simp [pushFirst, join]

theorem join_split {α : Type} [DecidableEq α] (sep : α) (xs : List α) : join sep (split sep xs) = xs := by
  induction xs with
  | nil => rfl
  | cons x xs ih =>
    rw [split_cons]
    split
    · next h => rw [join_cons_of_ne_nil _ _ (split_ne_nil sep xs), ih, h]; rfl
    · rw [join_pushFirst _ _ (split_ne_nil sep xs), ih]

theorem not_mem_of_mem_split {α : Type} [DecidableEq α] (sep : α) (xs : List α) :
    ∀ part ∈ split sep xs, sep ∉ part := by
  induction xs with
  | nil => simp [split_nil]
  | cons x xs ih =>
    rw [split_cons]
    split
    · intro part h
      rcases List.mem_cons.1 h with rfl | h
      · exact List.not_mem_nil
      · exact ih part h
    · next hx =>
      intro part h
      cases hs : split sep xs with
      | nil => exact absurd hs (split_ne_nil sep xs)
      | cons first rest =>
        rw [hs] at h ih
        rcases List.mem_cons.1 h with rfl | h
        · rintro hm
          rcases List.mem_cons.1 hm with he | hm
          · exact hx he.symm
          · exact ih first List.mem_cons_self hm
        · exact ih part (List.mem_cons_of_mem _ h)

end Quarantine.Text
