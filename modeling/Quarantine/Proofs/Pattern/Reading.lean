import Quarantine.Pattern.Matcher

/-!
# What a pattern reads

A tree reads a part of a text, from one spot to another.  The rules below say so without the
order in which the matcher tries things; the moves of a tree end where the tree reads to.

    seq a b reads s … u      =  a reads s … t, and b reads t … u
    again r reads s … u      =  rounds of r, one after the other
    some move of n ends at u ↔  n reads s … u

A round that reads nothing is a round here.  The moves leave such rounds out, and get to the
same spots.
-/

namespace Quarantine.Pattern

open Quarantine.Text

/-! ## Reading -/

/-- A spot of a text: the character before it, and all that stands after it. -/
structure Spot where
  before : Option Char
  rest : List Char

/-- The characters on both sides of a spot. -/
def Spot.place (s : Spot) : Place := ⟨s.before, s.rest.head?⟩

/-- A tree reads a text from one spot to another. -/
inductive Reads : Node → Spot → Spot → Prop
  | empty {s : Spot} : Reads .empty s s
  | set {set : CharSet} {before : Option Char} {c : Char} {cs : List Char}
      (h : set.contains c = true) : Reads (.set set) ⟨before, c :: cs⟩ ⟨some c, cs⟩
  | look {l : Look} {s : Spot} (h : l.holds s.place = true) : Reads (.look l) s s
  | mark {slot : Nat} {s : Spot} : Reads (.mark slot) s s
  | seq {a b : Node} {s t u : Spot} (ha : Reads a s t) (hb : Reads b t u) : Reads (.seq a b) s u
  | left {a b : Node} {s u : Spot} (h : Reads a s u) : Reads (.alt a b) s u
  | right {a b : Node} {s u : Spot} (h : Reads b s u) : Reads (.alt a b) s u
  | stop {most : Option Nat} {greedy : Bool} {body : Node} {s : Spot} :
      Reads (.repeated 0 most greedy body) s s
  | required {least : Nat} {most : Option Nat} {greedy : Bool} {body : Node} {s t u : Spot}
      (hbody : Reads body s t) (hrest : Reads (.repeated least (most.map (· - 1)) greedy body) t u) :
      Reads (.repeated (least + 1) most greedy body) s u
  | optional {most : Option Nat} {greedy : Bool} {body : Node} {s t u : Spot} (h : most ≠ some 0)
      (hbody : Reads body s t) (hrest : Reads (.repeated 0 (most.map (· - 1)) greedy body) t u) :
      Reads (.repeated 0 most greedy body) s u
  | enough {greedy : Bool} {body : Node} {s : Spot} : Reads (.again greedy body) s s
  | another {greedy : Bool} {body : Node} {s t u : Spot} (hbody : Reads body s t)
      (hrest : Reads (.again greedy body) t u) : Reads (.again greedy body) s u

/-- Trees read one after the other. -/
inductive ReadsAll : List Node → Spot → Spot → Prop
  | nil {s : Spot} : ReadsAll [] s s
  | cons {n : Node} {ns : List Node} {s t u : Spot} (hn : Reads n s t) (hns : ReadsAll ns t u) :
      ReadsAll (n :: ns) s u

section

variable {a b body n : Node} {ns ms : List Node} {greedy : Bool} {s u : Spot}

theorem readsAll_nil_iff : ReadsAll [] s u ↔ u = s := by
  constructor
  · rintro ⟨⟩
    rfl
  · rintro rfl
    exact .nil

theorem readsAll_cons_iff : ReadsAll (n :: ns) s u ↔ ∃ t, Reads n s t ∧ ReadsAll ns t u := by
  constructor
  · rintro (_ | ⟨hn, hns⟩)
    exact ⟨_, hn, hns⟩
  · rintro ⟨t, hn, hns⟩
    exact .cons hn hns

theorem readsAll_singleton_iff : ReadsAll [n] s u ↔ Reads n s u := by
  simp only [readsAll_cons_iff, readsAll_nil_iff, exists_eq_right']

theorem readsAll_append_iff :
    ReadsAll (ns ++ ms) s u ↔ ∃ t, ReadsAll ns s t ∧ ReadsAll ms t u := by
  induction ns generalizing s with
  | nil => simp only [List.nil_append, readsAll_nil_iff, exists_eq_left]
  | cons n ns ih =>
    simp only [List.cons_append, readsAll_cons_iff, ih]
    constructor
    · rintro ⟨t, hn, t', hns, hms⟩
      exact ⟨t', ⟨t, hn, hns⟩, hms⟩
    · rintro ⟨t', ⟨t, hn, hns⟩, hms⟩
      exact ⟨t, hn, t', hns, hms⟩

theorem reads_set_iff {set : CharSet} : Reads (.set set) s u ↔
    ∃ c cs, s.rest = c :: cs ∧ set.contains c = true ∧ u = ⟨some c, cs⟩ := by
  constructor
  · rintro (_ | hset)
    exact ⟨_, _, rfl, hset, rfl⟩
  · obtain ⟨before, rest⟩ := s
    rintro ⟨c, cs, rfl, hset, rfl⟩
    exact .set hset

theorem reads_look_iff {l : Look} : Reads (.look l) s u ↔ l.holds s.place = true ∧ u = s := by
  constructor
  · rintro (_ | _ | h)
    exact ⟨h, rfl⟩
  · rintro ⟨h, rfl⟩
    exact .look h

theorem reads_mark_iff {slot : Nat} : Reads (.mark slot) s u ↔ u = s := by
  constructor
  · rintro (_ | _ | _ | _)
    rfl
  · rintro rfl
    exact .mark

theorem reads_empty_iff : Reads .empty s u ↔ u = s := by
  constructor
  · rintro ⟨⟩
    rfl
  · rintro rfl
    exact .empty

theorem reads_seq_iff : Reads (.seq a b) s u ↔ ∃ t, Reads a s t ∧ Reads b t u := by
  constructor
  · rintro (_ | _ | _ | _ | ⟨ha, hb⟩)
    exact ⟨_, ha, hb⟩
  · rintro ⟨t, ha, hb⟩
    exact .seq ha hb

theorem reads_alt_iff : Reads (.alt a b) s u ↔ Reads a s u ∨ Reads b s u := by
  constructor
  · intro h
    cases h with
    | left h => exact .inl h
    | right h => exact .inr h
  · rintro (h | h)
    · exact .left h
    · exact .right h

theorem reads_required_iff {least : Nat} {most : Option Nat} :
    Reads (.repeated (least + 1) most greedy body) s u ↔
      ∃ t, Reads body s t ∧ Reads (.repeated least (most.map (· - 1)) greedy body) t u := by
  constructor
  · intro h
    cases h with
    | required hbody hrest => exact ⟨_, hbody, hrest⟩
  · rintro ⟨t, hbody, hrest⟩
    exact .required hbody hrest

theorem reads_upTo_iff {k : Nat} : Reads (.repeated 0 (some (k + 1)) greedy body) s u ↔
    u = s ∨ ∃ t, Reads body s t ∧ Reads (.repeated 0 (some k) greedy body) t u := by
  constructor
  · intro h
    cases h with
    | stop => exact .inl rfl
    | optional _ hbody hrest => exact .inr ⟨_, hbody, hrest⟩
  · rintro (rfl | ⟨t, hbody, hrest⟩)
    · exact .stop
    · exact .optional (by simp) hbody hrest

theorem reads_upTo_zero_iff : Reads (.repeated 0 (some 0) greedy body) s u ↔ u = s := by
  constructor
  · intro h
    cases h with
    | stop => rfl
    | optional hmost _ _ => exact absurd rfl hmost
  · rintro rfl
    exact .stop

/-- Any number of rounds is what is left once a round has been read. -/
theorem reads_any_iff :
    Reads (.repeated 0 none greedy body) s u ↔ Reads (.again greedy body) s u := by
  constructor
  · intro h
    generalize hn : Node.repeated 0 none greedy body = n at h
    induction h with
    | stop =>
      obtain ⟨-, -, rfl, rfl⟩ := Node.repeated.inj hn
      exact .enough
    | optional _ hbody _ _ ih =>
      obtain ⟨-, rfl, rfl, rfl⟩ := Node.repeated.inj hn
      exact .another hbody (ih rfl)
    | _ => cases hn
  · intro h
    generalize hn : Node.again greedy body = n at h
    induction h with
    | enough =>
      obtain ⟨rfl, rfl⟩ := Node.again.inj hn
      exact .stop
    | another hbody _ _ ih =>
      obtain ⟨rfl, rfl⟩ := Node.again.inj hn
      exact .optional (by simp) hbody (ih rfl)
    | _ => cases hn

theorem reads_sequence_iff : Reads (.sequence ns) s u ↔ ReadsAll ns s u := by
  induction ns generalizing s with
  | nil => rw [readsAll_nil_iff, Node.sequence, reads_empty_iff]
  | cons n ns ih =>
    cases ns with
    | nil => rw [Node.sequence, readsAll_singleton_iff]
    | cons m ns =>
      rw [Node.sequence, reads_seq_iff, readsAll_cons_iff]
      · simp only [ih]
      · exact List.cons_ne_nil m ns

end

/-! ## Moves -/

/-- Where a move from a spot ends. -/
inductive Move.Ends (s : Spot) : Move → Spot → Prop
  | leave {slots : List Nat} : Ends s (.leave slots) s
  | read {slots : List Nat} {set : CharSet} {rest : List Node} {c : Char} {cs : List Char}
      {u : Spot} (hc : s.rest = c :: cs) (hset : set.contains c = true)
      (hrest : ReadsAll rest ⟨some c, cs⟩ u) : Ends s (.read slots set rest) u

/-- Some of the moves ends there. -/
def Lead (s : Spot) (ms : List Move) (u : Spot) : Prop := ∃ m ∈ ms, m.Ends s u

section

variable {xs ys ms : List Move} {rest : List Node} {body : Node} {greedy : Bool} {s u : Spot}

theorem ends_leave_iff {slots : List Nat} : (Move.leave slots).Ends s u ↔ u = s := by
  constructor
  · rintro ⟨⟩
    rfl
  · rintro rfl
    exact .leave

theorem ends_read_iff {slots : List Nat} {set : CharSet} :
    (Move.read slots set rest).Ends s u ↔
      ∃ c cs, s.rest = c :: cs ∧ set.contains c = true ∧ ReadsAll rest ⟨some c, cs⟩ u := by
  constructor
  · rintro (_ | ⟨hc, hset, hrest⟩)
    exact ⟨_, _, hc, hset, hrest⟩
  · rintro ⟨c, cs, hc, hset, hrest⟩
    exact .read hc hset hrest

theorem ends_of_leaves {m : Move} (h : m.leaves = true) : m.Ends s u ↔ u = s := by
  cases m with
  | leave slots => exact ends_leave_iff
  | read => cases h

theorem ends_after_iff {m : Move} {slots : List Nat} : (m.after slots).Ends s u ↔ m.Ends s u := by
  cases m with
  | leave => rw [Move.after, ends_leave_iff, ends_leave_iff]
  | read => rw [Move.after, ends_read_iff, ends_read_iff]

theorem lead_nil : ¬ Lead s [] u := by
  rintro ⟨m, hm, -⟩
  exact List.not_mem_nil hm

theorem lead_leave_iff {slots : List Nat} : Lead s [.leave slots] u ↔ u = s := by
  unfold Lead
  simp only [List.mem_singleton, exists_eq_left, ends_leave_iff]

theorem lead_append_iff : Lead s (xs ++ ys) u ↔ Lead s xs u ∨ Lead s ys u := by
  unfold Lead
  simp only [List.mem_append, or_and_right, exists_or]

/-- Moves that leave end where they start, and the others are looked at one by one. -/
theorem lead_iff (ms : List Move) : Lead s ms u ↔
    (ms.any Move.leaves = true ∧ u = s) ∨ Lead s (ms.filter (!·.leaves)) u := by
  constructor
  · rintro ⟨m, hm, hu⟩
    by_cases hleaves : m.leaves = true
    · exact .inl ⟨List.any_eq_true.2 ⟨m, hm, hleaves⟩, (ends_of_leaves hleaves).1 hu⟩
    · exact .inr ⟨m, List.mem_filter.2 ⟨hm, by simpa using hleaves⟩, hu⟩
  · rintro (⟨hany, hu⟩ | ⟨m, hm, hu⟩)
    · obtain ⟨m, hm, hleaves⟩ := List.any_eq_true.1 hany
      exact ⟨m, hm, (ends_of_leaves hleaves).2 hu⟩
    · exact ⟨m, (List.mem_filter.1 hm).1, hu⟩

theorem lead_preferred_iff : Lead s (preferred xs ys) u ↔ Lead s xs u ∨ Lead s ys u := by
  unfold preferred
  split
  · next hxs =>
    -- a move of `ys` that leaves is dropped, and one of `xs` ends where it would
    rw [lead_append_iff, lead_iff ys]
    constructor
    · rintro (h | h)
      · exact .inl h
      · exact .inr (.inr h)
    · rintro (h | ⟨-, hu⟩ | h)
      · exact .inl h
      · exact .inl ((lead_iff _).2 (.inl ⟨hxs, hu⟩))
      · exact .inr h
  · exact lead_append_iff

theorem lead_orLeave_iff : Lead s (orLeave greedy xs) u ↔ u = s ∨ Lead s xs u := by
  unfold orLeave
  split
  · rw [lead_preferred_iff, lead_leave_iff, or_comm]
  · rw [← List.singleton_append, lead_append_iff, lead_leave_iff, lead_iff xs]
    constructor
    · rintro (hu | h)
      · exact .inl hu
      · exact .inr (.inr h)
    · rintro (hu | ⟨-, hu⟩ | h)
      · exact .inl hu
      · exact .inl hu
      · exact .inr h

/-- Going on with more trees where the first moves end. -/
theorem lead_followed_iff {ys : Unit → List Move}
    (hys : ∀ u, Lead s (ys ()) u ↔ ReadsAll rest s u) :
    Lead s (followed xs rest ys) u ↔ ∃ t, Lead s xs t ∧ ReadsAll rest t u := by
  unfold followed
  constructor
  · rintro ⟨m, hm, hu⟩
    obtain ⟨x, hx, hm⟩ := List.mem_flatMap.1 hm
    cases x with
    | leave slots =>
      obtain ⟨y, hy, rfl⟩ := List.mem_map.1 hm
      exact ⟨s, ⟨_, hx, .leave⟩, (hys u).1 ⟨y, hy, ends_after_iff.1 hu⟩⟩
    | read slots set more =>
      obtain rfl := List.mem_singleton.1 hm
      obtain _ | ⟨hc, hset, hall⟩ := hu
      obtain ⟨t, hmore, hrest⟩ := readsAll_append_iff.1 hall
      exact ⟨t, ⟨_, hx, .read hc hset hmore⟩, hrest⟩
  · rintro ⟨t, ⟨x, hx, ht⟩, hrest⟩
    cases ht with
    | leave =>
      obtain ⟨y, hy, hu⟩ := (hys u).2 hrest
      exact ⟨_, List.mem_flatMap.2 ⟨_, hx, List.mem_map_of_mem hy⟩, ends_after_iff.2 hu⟩
    | read hc hset hmore =>
      exact ⟨_, List.mem_flatMap.2 ⟨_, hx, List.mem_singleton_self _⟩,
        .read hc hset (readsAll_append_iff.2 ⟨t, hmore, hrest⟩)⟩

/-- Only moves that read go on with more trees. -/
theorem lead_map_before_iff : Lead s (ms.map (·.before rest)) u ↔
    (ms.any Move.leaves = true ∧ u = s) ∨
      ∃ t, Lead s (ms.filter (!·.leaves)) t ∧ ReadsAll rest t u := by
  constructor
  · rintro ⟨m, hm, hu⟩
    obtain ⟨x, hx, rfl⟩ := List.mem_map.1 hm
    cases x with
    | leave slots => exact .inl ⟨List.any_eq_true.2 ⟨_, hx, rfl⟩, ends_leave_iff.1 hu⟩
    | read slots set more =>
      obtain _ | ⟨hc, hset, hall⟩ := hu
      obtain ⟨t, hmore, hrest⟩ := readsAll_append_iff.1 hall
      exact .inr ⟨t, ⟨_, List.mem_filter.2 ⟨hx, rfl⟩, .read hc hset hmore⟩, hrest⟩
  · rintro (⟨hany, hu⟩ | ⟨t, ⟨x, hx, ht⟩, hrest⟩)
    · obtain ⟨x, hx, hleaves⟩ := List.any_eq_true.1 hany
      cases x with
      | leave slots => exact ⟨_, List.mem_map_of_mem hx, ends_leave_iff.2 hu⟩
      | read => cases hleaves
    · obtain ⟨hx, hreads⟩ := List.mem_filter.1 hx
      cases ht with
      | leave => cases hreads
      | read hc hset hmore =>
        exact ⟨_, List.mem_map_of_mem hx, .read hc hset (readsAll_append_iff.2 ⟨t, hmore, hrest⟩)⟩

end

/-! ## Rounds -/

section

variable {ms : List Move} {body : Node} {greedy : Bool} {s u : Spot}
  (hms : ∀ u, Lead s ms u ↔ Reads body s u)

include hms

/-- Rounds that read nothing can be left out until one that reads. -/
theorem reads_again_iff : Reads (.again greedy body) s u ↔
    u = s ∨ ∃ t, Lead s (ms.filter (!·.leaves)) t ∧ Reads (.again greedy body) t u := by
  constructor
  · intro h
    generalize hn : Node.again greedy body = n at h
    induction h with
    | enough => exact .inl rfl
    | another hbody hrest _ ih =>
      obtain ⟨rfl, rfl⟩ := Node.again.inj hn
      obtain ⟨-, rfl⟩ | hlead := (lead_iff _).1 ((hms _).2 hbody)
      · exact ih hms rfl
      · exact .inr ⟨_, hlead, hrest⟩
    | _ => cases hn
  · rintro (rfl | ⟨t, hlead, hrest⟩)
    · exact .enough
    · exact .another ((hms t).1 ((lead_iff _).2 (.inr hlead))) hrest

theorem lead_upToMoves_iff {k : Nat} :
    Lead s (upToMoves ms greedy body k) u ↔ Reads (.repeated 0 (some k) greedy body) s u := by
  induction k generalizing u with
  | zero => rw [upToMoves, lead_leave_iff, reads_upTo_zero_iff]
  | succ k ih =>
    rw [upToMoves, lead_orLeave_iff, lead_followed_iff fun _ => ih.trans readsAll_singleton_iff.symm,
      reads_upTo_iff]
    simp only [hms, readsAll_singleton_iff]

theorem lead_repeatMoves_iff {least : Nat} {most : Option Nat} :
    Lead s (repeatMoves ms greedy body least most) u ↔
      Reads (.repeated least most greedy body) s u := by
  fun_induction repeatMoves ms greedy body least most generalizing u with
  | case1 k => exact lead_upToMoves_iff hms
  | case2 =>
    rw [lead_orLeave_iff, lead_map_before_iff, reads_any_iff, reads_again_iff hms]
    simp only [readsAll_singleton_iff]
    constructor
    · rintro (hu | ⟨-, hu⟩ | h)
      · exact .inl hu
      · exact .inl hu
      · exact .inr h
    · rintro (hu | h)
      · exact .inl hu
      · exact .inr (.inr h)
  | case3 =>
    rw [lead_map_before_iff, reads_required_iff]
    simp only [readsAll_singleton_iff, Option.map_none, reads_any_iff]
    constructor
    · rintro (⟨hany, rfl⟩ | ⟨t, hlead, hrest⟩)
      · exact ⟨u, (hms u).1 ((lead_iff _).2 (.inl ⟨hany, rfl⟩)), .enough⟩
      · exact ⟨t, (hms t).1 ((lead_iff _).2 (.inr hlead)), hrest⟩
    · rintro ⟨t, hbody, hrest⟩
      obtain ⟨hany, rfl⟩ | hlead := (lead_iff _).1 ((hms t).2 hbody)
      · obtain rfl | hmore := (reads_again_iff hms).1 hrest
        · exact .inl ⟨hany, rfl⟩
        · exact .inr hmore
      · exact .inr ⟨t, hlead, hrest⟩
  | case4 least most _ fewer =>
    rename_i ih
    rw [lead_followed_iff fun _ => ih.trans readsAll_singleton_iff.symm, reads_required_iff]
    simp only [hms, readsAll_singleton_iff]
    rfl

end

/-! ## Trees and stacks -/

/-- The moves of a tree end where the tree reads to. -/
theorem lead_moves_iff {n : Node} {s u : Spot} : Lead s (moves s.place n) u ↔ Reads n s u := by
  induction n generalizing u with
  | empty => rw [moves, lead_leave_iff, reads_empty_iff]
  | set set =>
    rw [moves, reads_set_iff]
    unfold Lead
    simp only [List.mem_singleton, exists_eq_left, ends_read_iff, readsAll_nil_iff]
  | look l =>
    rw [moves, reads_look_iff]
    split
    · next hl => rw [lead_leave_iff, and_iff_right hl]
    · next hl => exact ⟨fun h => (lead_nil h).elim, fun h => absurd h.1 hl⟩
  | mark slot => rw [moves, lead_leave_iff, reads_mark_iff]
  | seq a b iha ihb =>
    rw [moves, lead_followed_iff fun _ => ihb.trans readsAll_singleton_iff.symm, reads_seq_iff]
    simp only [iha, readsAll_singleton_iff]
  | alt a b iha ihb => rw [moves, lead_preferred_iff, iha, ihb, reads_alt_iff]
  | repeated least most greedy body ih =>
    rw [moves]
    exact lead_repeatMoves_iff fun _ => ih
  | again greedy body ih =>
    rw [moves, lead_orLeave_iff, lead_map_before_iff, reads_again_iff fun _ => ih]
    simp only [readsAll_singleton_iff, List.filter_filter, Bool.and_self]
    constructor
    · rintro (hu | ⟨-, hu⟩ | h)
      · exact .inl hu
      · exact .inl hu
      · exact .inr h
    · rintro (hu | h)
      · exact .inl hu
      · exact .inr (.inr h)

/-- The moves of a stack end where its trees read to, one after the other. -/
theorem lead_stackMoves_iff {ns : List Node} {s u : Spot} :
    Lead s (stackMoves s.place ns) u ↔ ReadsAll ns s u := by
  induction ns generalizing u with
  | nil => rw [stackMoves, lead_leave_iff, readsAll_nil_iff]
  | cons n ns ih =>
    rw [stackMoves, lead_followed_iff fun _ => ih, readsAll_cons_iff]
    simp only [lead_moves_iff]

end Quarantine.Pattern
