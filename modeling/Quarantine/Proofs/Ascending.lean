import Quarantine.Ascending

/-!
# Ascending lists by their members

An ascending list is told by its members.

    ofList s.items = s
    s = t ↔ they contain the same
-/

namespace Quarantine.Ascending

theorem contains_iff {α : Type} [DecidableEq α] [LT α] {s : Ascending α} {x : α} :
    s.contains x = true ↔ x ∈ s.items := List.contains_iff_mem

theorem contains_filter {α : Type} [DecidableEq α] [LT α] {s : Ascending α} {p : α → Bool}
    {x : α} : (s.filter p).contains x = true ↔ s.contains x = true ∧ p x = true := by
  rw [contains_iff, contains_iff, filter, List.mem_filter]

section

variable {α : Type} [LT α] [LE α] [Std.IsLinearOrder α] [Std.LawfulOrderLT α]

/-- Ascending lists with the same members are equal. -/
theorem eq_of_pairwise {xs ys : List α} (hx : xs.Pairwise (· < ·)) (hy : ys.Pairwise (· < ·))
    (h : ∀ a, a ∈ xs ↔ a ∈ ys) : xs = ys := by
  induction xs generalizing ys with
  | nil =>
    cases ys with
    | nil => rfl
    | cons y ys => exact absurd ((h y).2 List.mem_cons_self) List.not_mem_nil
  | cons x xs ih =>
    cases ys with
    | nil => exact absurd ((h x).1 List.mem_cons_self) List.not_mem_nil
    | cons y ys =>
      obtain ⟨hx0, hxs⟩ := List.pairwise_cons.1 hx
      obtain ⟨hy0, hys⟩ := List.pairwise_cons.1 hy
      have hxy : x = y := by
        rcases List.mem_cons.1 ((h x).1 List.mem_cons_self) with he | hm
        · exact he
        · rcases List.mem_cons.1 ((h y).2 List.mem_cons_self) with he | hm'
          · exact he.symm
          · exact absurd (Std.lt_trans (hx0 y hm') (hy0 x hm)) (Std.lt_irrefl)
      subst hxy
      congr 1
      refine ih hxs hys fun a => ⟨fun ha => ?_, fun ha => ?_⟩
      · rcases List.mem_cons.1 ((h a).1 (List.mem_cons_of_mem _ ha)) with rfl | hm
        · exact absurd (hx0 a ha) Std.lt_irrefl
        · exact hm
      · rcases List.mem_cons.1 ((h a).2 (List.mem_cons_of_mem _ ha)) with rfl | hm
        · exact absurd (hy0 a ha) Std.lt_irrefl
        · exact hm

variable [DecidableEq α]

theorem eq_of_contains {s t : Ascending α} (h : ∀ x, s.contains x = true ↔ t.contains x = true) :
    s = t := by
  have hitems : s.items = t.items := eq_of_pairwise s.ascends t.ascends fun a => by
    rw [← contains_iff, ← contains_iff]
    exact h a
  cases s
  cases t
  cases hitems
  rfl

variable [DecidableLT α]

theorem ofList_items (s : Ascending α) : ofList s.items = s :=
  eq_of_contains fun x => by rw [contains_ofList, contains_iff]

/-- The items of a list that ascends are the list. -/
theorem items_ofList {xs : List α} (h : xs.Pairwise (· < ·)) : (ofList xs).items = xs :=
  eq_of_pairwise (ofList xs).ascends h fun a => by rw [← contains_iff, contains_ofList]

end

end Quarantine.Ascending
