import Quarantine.Pattern.Replacement
import Quarantine.Proofs.Pattern.Reading
import Mathlib.Data.List.Basic

/-!
# What a pattern matches

Threads are run character by character, and a thread succeeds if its trees read on from where it
is.  Threads are given up in two places: after one that leaves, and where two have the same
future.  Neither costs a match.

    run … threads cs is some marks   ↔  some thread succeeds
    search node … cs is some marks   ↔  node reads from some spot of cs
    p.isMatch text                   ↔  the tree of p reads from some spot of text
-/

namespace Quarantine.Pattern

open Quarantine.Text

/-! ## Threads -/

/-- The trees of a thread read on from a spot. -/
def Thread.Succeeds (s : Spot) (t : Thread) : Prop := ∃ u, ReadsAll t.stack s u

/-- A wish is granted at a spot, and what follows reads on. -/
def Wish.Succeeds (s : Spot) (w : Wish) : Prop := ∃ u, (Move.read [] w.set w.rest).Ends s u

section

variable {s : Spot} {c : Char} {cs : List Char} {before : Option Char}

theorem not_succeeds_at_end {w : Wish} : ¬ w.Succeeds ⟨before, []⟩ := by
  unfold Wish.Succeeds
  simp [ends_read_iff]

theorem succeeds_cons_iff (before : Option Char) {w : Wish} : w.Succeeds ⟨before, c :: cs⟩ ↔
    w.set.contains c = true ∧ ∃ u, ReadsAll w.rest ⟨some c, cs⟩ u := by
  unfold Wish.Succeeds
  simp [ends_read_iff]

/-- A move that reads leads on just as the wish for it succeeds. -/
theorem exists_ends_read_iff (marks : Marks) {slots : List Nat} {set : CharSet}
    {rest : List Node} :
    (∃ u, (Move.read slots set rest).Ends s u) ↔ (⟨marks, set, rest⟩ : Wish).Succeeds s := by
  unfold Wish.Succeeds
  simp only [ends_read_iff]

/-- The moves up to the first that leaves lead on, or it leaves, just as some move leads on. -/
theorem split_succeeds_iff (s : Spot) (marks : Marks) (pos : Nat) (ms : List Move) :
    ((wishes.split pos marks ms).2.isSome = true ∨
      ∃ w ∈ (wishes.split pos marks ms).1, w.Succeeds s) ↔ ∃ u, Lead s ms u := by
  induction ms with
  | nil => simp [wishes.split, lead_nil]
  | cons m ms ih =>
    cases m with
    | leave slots => exact ⟨fun _ => ⟨s, _, List.mem_cons_self, .leave⟩, fun _ => .inl rfl⟩
    | read slots set rest =>
      have hsplit : (∃ u, Lead s (.read slots set rest :: ms) u) ↔
          (∃ u, (Move.read slots set rest).Ends s u) ∨ ∃ u, Lead s ms u := by
        unfold Lead
        simp only [List.mem_cons, exists_eq_or_imp, exists_or]
      rw [hsplit, ← ih, exists_ends_read_iff (marks.put pos slots), wishes.split]
      simp only [List.mem_cons, exists_eq_or_imp]
      exact or_left_comm

/-- One of the wishes succeeds, or a thread leaves, just as some thread succeeds. -/
theorem wishes_succeeds_iff (pos : Nat) {ts : List Thread} :
    ((wishes s.place pos ts).2.isSome = true ∨ ∃ w ∈ (wishes s.place pos ts).1, w.Succeeds s) ↔
      ∃ t ∈ ts, t.Succeeds s := by
  induction ts with
  | nil => simp [wishes]
  | cons t ts ih =>
    have hown := split_succeeds_iff s t.marks pos (stackMoves s.place t.stack)
    simp only [lead_stackMoves_iff] at hown
    rw [List.exists_mem_cons_iff, ← ih, Thread.Succeeds, ← hown, wishes]
    cases wishes.split pos t.marks (stackMoves s.place t.stack) with
    | mk own left =>
      cases left with
      | some marks => exact ⟨fun _ => .inl (.inl rfl), fun _ => .inl rfl⟩
      | none =>
        simp only [List.mem_append, or_and_right, exists_or, Option.isSome_none,
          Bool.false_eq_true, false_or]
        exact or_left_comm

/-- Wishes that are left out have the future of one that stays. -/
theorem exists_distinct_iff (P : List Node → Prop) (ws : List Wish) (seen : List (List Node)) :
    (∃ t ∈ distinct ws seen, P t.stack) ↔ ∃ w ∈ ws, w.rest ∉ seen ∧ P w.rest := by
  induction ws generalizing seen with
  | nil => simp [distinct]
  | cons w ws ih =>
    rw [List.exists_mem_cons_iff, distinct]
    by_cases hseen : w.rest ∈ seen
    · rw [if_pos (List.contains_iff_mem.2 hseen), ih]
      constructor
      · exact .inr
      · rintro (⟨hnot, -⟩ | h)
        · exact absurd hseen hnot
        · exact h
    · rw [if_neg (mt List.contains_iff_mem.1 hseen), List.exists_mem_cons_iff, ih]
      constructor
      · rintro (h | ⟨w', hw', hnot, h⟩)
        · exact .inl ⟨hseen, h⟩
        · exact .inr ⟨w', hw', fun hmem => hnot (List.mem_cons_of_mem _ hmem), h⟩
      · rintro (⟨-, h⟩ | ⟨w', hw', hnot, h⟩)
        · exact .inl h
        · by_cases heq : w'.rest = w.rest
          · exact .inl (heq ▸ h)
          · exact .inr ⟨w', hw', List.not_mem_cons_of_ne_of_not_mem heq hnot, h⟩

theorem run_no_threads (before : Option Char) (pos : Nat) (cs : List Char) :
    run before pos [] cs = none := by
  cases cs <;> rfl

/-- A run ends with marks if a thread leaves here, or if it does from the next character on. -/
theorem isSome_run_cons_iff {pos : Nat} {threads : List Thread} {ws : List Wish}
    {left : Option Marks} (h : wishes ⟨before, some c⟩ pos threads = (ws, left)) :
    (run before pos threads (c :: cs)).isSome = true ↔ left.isSome = true ∨
      (run (some c) (pos + 1) (distinct (ws.filter (·.set.contains c)) []) cs).isSome = true := by
  rw [run, h]
  dsimp only
  cases distinct (ws.filter (·.set.contains c)) [] with
  | nil => simp [run_no_threads]
  | cons t next =>
    rw [List.isEmpty_cons, if_neg Bool.false_ne_true]
    cases run (some c) (pos + 1) (t :: next) cs with
    | some marks => simp
    | none => simp

/-- A run over a text ends with marks if some thread succeeds. -/
theorem isSome_run_iff (pos : Nat) (threads : List Thread) :
    (run before pos threads cs).isSome = true ↔ ∃ t ∈ threads, t.Succeeds ⟨before, cs⟩ := by
  induction cs generalizing before pos threads with
  | nil =>
    rw [run, ← wishes_succeeds_iff pos]
    constructor
    · exact .inl
    · rintro (h | ⟨w, -, h⟩)
      · exact h
      · exact absurd h not_succeeds_at_end
  | cons c cs ih =>
    have hwishes : (∃ t ∈ threads, t.Succeeds ⟨before, c :: cs⟩) ↔
        (wishes ⟨before, some c⟩ pos threads).2.isSome = true ∨
          ∃ w ∈ (wishes ⟨before, some c⟩ pos threads).1, w.Succeeds ⟨before, c :: cs⟩ :=
      (wishes_succeeds_iff pos).symm
    have hnext := exists_distinct_iff (fun ns => ∃ u, ReadsAll ns ⟨some c, cs⟩ u)
      ((wishes ⟨before, some c⟩ pos threads).1.filter (·.set.contains c)) []
    simp only [List.mem_filter, List.not_mem_nil, not_false_eq_true, true_and, and_assoc,
      ← succeeds_cons_iff before] at hnext
    rw [isSome_run_cons_iff rfl, ih, hwishes, ← hnext]
    rfl

end

/-! ## Places of a text -/

/-- Some characters lead from one spot to another. -/
inductive Passes : Spot → List Char → Spot → Prop
  | here {s : Spot} : Passes s [] s
  | next {before : Option Char} {c : Char} {cs w : List Char} {u : Spot}
      (h : Passes ⟨some c, cs⟩ w u) : Passes ⟨before, c :: cs⟩ (c :: w) u

section

variable {s u : Spot} {before : Option Char} {c : Char} {cs v w : List Char}

theorem passes_nil_iff : Passes s [] u ↔ u = s := by
  constructor
  · rintro ⟨⟩
    rfl
  · rintro rfl
    exact .here

theorem passes_cons_iff :
    Passes ⟨before, cs⟩ (c :: w) u ↔ ∃ rest, cs = c :: rest ∧ Passes ⟨some c, rest⟩ w u := by
  constructor
  · rintro (_ | h)
    exact ⟨_, rfl, h⟩
  · rintro ⟨rest, rfl, h⟩
    exact .next h

/-- The spots of a text are its start and the spots of what follows the first character. -/
theorem exists_passes_cons_iff {P : Spot → Prop} :
    (∃ w s, Passes ⟨before, c :: cs⟩ w s ∧ P s) ↔
      P ⟨before, c :: cs⟩ ∨ ∃ w s, Passes ⟨some c, cs⟩ w s ∧ P s := by
  constructor
  · rintro ⟨w, s, _ | hw, hs⟩
    · exact .inl hs
    · exact .inr ⟨_, s, hw, hs⟩
  · rintro (hs | ⟨w, s, hw, hs⟩)
    · exact ⟨[], _, .here, hs⟩
    · exact ⟨c :: w, s, .next hw, hs⟩

/-- The marks around the tree of a pattern read nothing. -/
theorem isSome_run_group_iff {node : Node} (pos : Nat) :
    (run before pos [⟨[], [.group 0 node]⟩] cs).isSome = true ↔
      ∃ u, Reads node ⟨before, cs⟩ u := by
  rw [isSome_run_iff]
  simp only [List.mem_singleton, exists_eq_left, Thread.Succeeds, readsAll_singleton_iff,
    Node.group, reads_seq_iff, reads_mark_iff, exists_eq_right']

/-- The search finds a match if the tree reads from some spot on. -/
theorem isSome_search_iff {node : Node} (pos : Nat) :
    (search node before pos cs).isSome = true ↔
      ∃ w s, Passes ⟨before, cs⟩ w s ∧ ∃ u, Reads node s u := by
  induction cs generalizing before pos with
  | nil =>
    have hsearch : (search node before pos []).isSome =
        (run before pos [⟨[], [.group 0 node]⟩] []).isSome := by
      rw [search]
      cases run before pos [⟨[], [.group 0 node]⟩] [] <;> rfl
    rw [hsearch, isSome_run_group_iff]
    constructor
    · exact fun h => ⟨[], _, .here, h⟩
    · rintro ⟨w, s, ⟨⟩, h⟩
      exact h
  | cons c cs ih =>
    have hsearch : (search node before pos (c :: cs)).isSome =
        ((run before pos [⟨[], [.group 0 node]⟩] (c :: cs)).isSome ||
          (search node (some c) (pos + 1) cs).isSome) := by
      rw [search]
      cases run before pos [⟨[], [.group 0 node]⟩] (c :: cs) <;> rfl
    rw [hsearch, Bool.or_eq_true, isSome_run_group_iff, ih, exists_passes_cons_iff]

/-- A pattern matches a text if its tree reads from some spot of the text. -/
theorem isMatch_iff {p : Pattern} {text : String} : p.isMatch text = true ↔
    ∃ w s, Passes ⟨none, text.toList⟩ w s ∧ ∃ u, Reads p.node s u := isSome_search_iff 0

end

end Quarantine.Pattern
