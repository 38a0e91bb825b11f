/-!
# Ascending lists

The finite sets of ordered items, as lists that ascend.

    x ∈ insert y s ↔ x = y ∨ x ∈ s
    x ∈ ofList xs  ↔ x ∈ xs
    x ∈ s → x ≤ last s
-/

namespace Quarantine

structure Ascending (α : Type) [LT α] where
  items : List α
  ascends : items.Pairwise (· < ·)

namespace Ascending

/-! ## Operations -/

def empty {α : Type} [LT α] : Ascending α := ⟨[], .nil⟩

instance {α : Type} [LT α] : Inhabited (Ascending α) := ⟨empty⟩

/-- Puts an item in its place, unless it is there. -/
def insertItem {α : Type} [DecidableEq α] [LT α] [DecidableLT α] (x : α) : List α → List α
  | [] => [x]
  | y :: rest =>
    if x = y then y :: rest
    else if x < y then x :: y :: rest
    else y :: insertItem x rest

theorem mem_insertItem {α : Type} [DecidableEq α] [LT α] [DecidableLT α] {x y : α}
    {ys : List α} : x ∈ insertItem y ys ↔ x = y ∨ x ∈ ys := by
  induction ys with
  | nil => simp [insertItem]
  | cons z rest ih =>
    unfold insertItem
    split
    · next h => subst h; simp
    · split
      · simp
      · simp [ih]; exact or_left_comm

theorem ascends_insertItem {α : Type} [DecidableEq α] [LT α] [DecidableLT α] [LE α]
    [Std.IsLinearOrder α] [Std.LawfulOrderLT α] (x : α) {ys : List α}
    (h : ys.Pairwise (· < ·)) : (insertItem x ys).Pairwise (· < ·) := by
  induction ys with
  | nil => simp [insertItem]
  | cons y rest ih =>
    obtain ⟨hy, hrest⟩ := List.pairwise_cons.1 h
    unfold insertItem
    split
    · exact h
    · split
      · next hxy =>
        refine List.pairwise_cons.2 ⟨fun z hz => ?_, h⟩
        rcases List.mem_cons.1 hz with rfl | hz
        · exact hxy
        · exact Std.lt_trans hxy (hy z hz)
      · next hne hxy =>
        refine List.pairwise_cons.2 ⟨fun z hz => ?_, ih hrest⟩
        rcases mem_insertItem.1 hz with rfl | hz
        · exact Std.lt_of_le_of_ne (Std.not_lt.1 hxy) (Ne.symm hne)
        · exact hy z hz

section

variable {α : Type} [DecidableEq α] [LT α] [DecidableLT α] [LE α] [Std.IsLinearOrder α]
  [Std.LawfulOrderLT α]

def insert (x : α) (s : Ascending α) : Ascending α :=
  ⟨insertItem x s.items, ascends_insertItem x s.ascends⟩

/-- The items of a list, each once. -/
def ofList (xs : List α) : Ascending α := xs.foldl (fun s x => s.insert x) empty

end

def contains {α : Type} [DecidableEq α] [LT α] (s : Ascending α) (x : α) : Bool :=
  s.items.contains x

def size {α : Type} [LT α] (s : Ascending α) : Nat := s.items.length

/-- The largest item. -/
def last? {α : Type} [LT α] (s : Ascending α) : Option α := s.items.getLast?

/-- The items that satisfy a condition. -/
def filter {α : Type} [LT α] (p : α → Bool) (s : Ascending α) : Ascending α :=
  ⟨s.items.filter p, s.ascends.filter p⟩

/-! ## Lemmas -/

section

variable {α : Type} [DecidableEq α] [LT α] [DecidableLT α] [LE α] [Std.IsLinearOrder α]
  [Std.LawfulOrderLT α]

theorem contains_insert (x y : α) (s : Ascending α) :
    (s.insert y).contains x = true ↔ x = y ∨ s.contains x = true := by
  simp [contains, insert, mem_insertItem]

theorem contains_foldl_insert (x : α) (xs : List α) (s : Ascending α) :
    (xs.foldl (fun s y => s.insert y) s).contains x = true ↔ x ∈ xs ∨ s.contains x = true := by
  induction xs generalizing s with
  | nil => simp
  | cons y rest ih =>
    rw [List.foldl_cons, ih, contains_insert, List.mem_cons]
    constructor
    · rintro (h | h | h)
      · exact .inl (.inr h)
      · exact .inl (.inl h)
      · exact .inr h
    · rintro ((h | h) | h)
      · exact .inr (.inl h)
      · exact .inl h
      · exact .inr (.inr h)

theorem contains_ofList (x : α) (xs : List α) : (ofList xs).contains x = true ↔ x ∈ xs := by
  unfold ofList
  rw [contains_foldl_insert]
  simp [contains, empty]

end

theorem eq_or_lt_of_last? {α : Type} [DecidableEq α] [LT α] {s : Ascending α} {x y : α}
    (hy : s.last? = some y) (hx : s.contains x = true) : x = y ∨ x < y := by
  obtain ⟨front, h⟩ := List.getLast?_eq_some_iff.1 hy
  have hx : x ∈ front ++ [y] := h ▸ List.contains_iff_mem.1 hx
  rcases List.mem_append.1 hx with hx | hx
  · exact .inr ((List.pairwise_append.1 (h ▸ s.ascends)).2.2 x hx y List.mem_cons_self)
  · exact .inl (List.mem_singleton.1 hx)

end Ascending
end Quarantine
