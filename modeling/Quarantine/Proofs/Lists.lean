import Mathlib.Data.List.Basic

/-!
# Lists

Splits of lists, and lists that are strung together.

    xs ++ [y] = before ++ x :: after   →  y is x, or after ends in y
    xs.isPrefixOf? ys = some rest      →  ys = xs ++ rest
    (xs.filter p).flatMap f            =  xs.flatMap f, if f gives nothing without p
-/

namespace Quarantine

/-! ## Splits -/

/-- An item of a list with one more at its end is that one, or it is in the list before. -/
theorem concat_eq_append_cons {α : Type} {xs before after : List α} {x y : α}
    (h : xs ++ [y] = before ++ x :: after) :
    (xs = before ∧ y = x ∧ after = []) ∨ ∃ after', after = after' ++ [y] ∧
      xs = before ++ x :: after' := by
  rcases List.eq_nil_or_concat after with rfl | ⟨after', last, rfl⟩
  · obtain ⟨hbefore, hlast⟩ := List.append_inj' h rfl
    exact .inl ⟨hbefore, List.singleton_inj.1 hlast, rfl⟩
  · rw [List.concat_eq_append, ← List.cons_append, ← List.append_assoc] at h
    obtain ⟨hxs, hlast⟩ := List.append_inj' h rfl
    rw [List.concat_eq_append, List.singleton_inj.1 hlast]
    exact .inr ⟨after', rfl, hxs⟩

theorem isPrefixOf?_append {α : Type} [BEq α] [ReflBEq α] (xs ys : List α) :
    xs.isPrefixOf? (xs ++ ys) = some ys := by
  induction xs with
  | nil => rfl
  | cons x xs ih =>
    show (if (x == x) = true then xs.isPrefixOf? (xs ++ ys) else none) = some ys
    rw [if_pos (beq_self_eq_true x), ih]

theorem isSuffixOf?_append {α : Type} [BEq α] [ReflBEq α] (xs ys : List α) :
    ys.isSuffixOf? (xs ++ ys) = some xs := by
  show (ys.reverse.isPrefixOf? (xs ++ ys).reverse).map List.reverse = some xs
  rw [List.reverse_append, isPrefixOf?_append, Option.map_some, List.reverse_reverse]

theorem eq_append_of_isPrefixOf? {α : Type} [BEq α] [LawfulBEq α] {xs ys rest : List α}
    (h : xs.isPrefixOf? ys = some rest) : ys = xs ++ rest := by
  induction xs generalizing ys with
  | nil => exact Option.some.inj h
  | cons x xs ih =>
    cases ys with
    | nil => cases h
    | cons y ys =>
      have h : (if (x == y) = true then xs.isPrefixOf? ys else none) = some rest := h
      split at h
      · next hxy => rw [eq_of_beq hxy, ih h, List.cons_append]
      · cases h

theorem eq_append_of_isSuffixOf? {α : Type} [BEq α] [LawfulBEq α] {xs ys front : List α}
    (h : xs.isSuffixOf? ys = some front) : ys = front ++ xs := by
  obtain ⟨back, hback, rfl⟩ := Option.map_eq_some_iff.1 h
  have hys := congrArg List.reverse (eq_append_of_isPrefixOf? hback)
  rwa [List.reverse_reverse, List.reverse_append, List.reverse_reverse] at hys

/-! ## Lists that are strung together -/

/-- Items that give nothing do not count. -/
theorem flatMap_filter_of_nil {α β : Type} {p : α → Bool} {g : α → List β} {xs : List α}
    (h : ∀ x ∈ xs, p x = false → g x = []) : (xs.filter p).flatMap g = xs.flatMap g := by
  induction xs with
  | nil => rfl
  | cons x xs ih =>
    have hrest := ih fun y hy => h y (List.mem_cons_of_mem _ hy)
    rw [List.filter_cons, List.flatMap_cons, ← hrest]
    cases hp : p x with
    | true => rw [if_pos rfl, List.flatMap_cons]
    | false => rw [if_neg Bool.false_ne_true, h x List.mem_cons_self hp, List.nil_append]

/-- A list is strung together from what is at its places. -/
theorem flatMap_range_getElem? {α β : Type} (xs : List α) (f : α → List β) :
    ((List.range xs.length).flatMap fun i => (xs[i]?.map f).getD []) = xs.flatMap f := by
  have hupTo : ∀ n, n ≤ xs.length →
      ((List.range n).flatMap fun i => (xs[i]?.map f).getD []) = (xs.take n).flatMap f := by
    intro n hn
    induction n with
    | zero => rfl
    | succ n ih =>
      have hlast : xs[n]? = some xs[n] := List.getElem?_eq_getElem hn
      rw [List.range_succ, List.flatMap_append, ih (by omega), List.flatMap_singleton,
        List.take_add_one, hlast, List.flatMap_append, Option.toList_some, List.flatMap_singleton]
      rfl
  have h := hupTo xs.length (Nat.le_refl _)
  rw [List.take_length] at h
  exact h

end Quarantine
