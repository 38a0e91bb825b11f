import Quarantine.Proofs.Pattern.Matching
import Mathlib.Computability.Language

/-!
# The words of a pattern

A tree without looks reads the same words wherever it stands, and they are a language.  A
pattern that holds on to both ends of the text matches the words of what stands between them.

    words of seq a b        =  words of a * words of b
    words of r{k}           =  (words of r) ^ k
    ^ a … z $ matches text  ↔  text ∈ words of a * … * words of z
-/

namespace Quarantine.Pattern

open Quarantine.Text

/-! ## Passing words -/

section

variable {s u : Spot} {v w : List Char}

theorem passes_append_iff : Passes s (v ++ w) u ↔ ∃ t, Passes s v t ∧ Passes t w u := by
  induction v generalizing s with
  | nil => simp only [List.nil_append, passes_nil_iff, exists_eq_left]
  | cons c v ih =>
    obtain ⟨before, cs⟩ := s
    simp only [List.cons_append, passes_cons_iff, ih]
    constructor
    · rintro ⟨rest, hrest, t, hv, hw⟩
      exact ⟨t, ⟨rest, hrest, hv⟩, hw⟩
    · rintro ⟨t, ⟨rest, hrest, hv⟩, hw⟩
      exact ⟨rest, hrest, t, hv, hw⟩

theorem Passes.rest_eq (h : Passes s w u) : s.rest = w ++ u.rest := by
  induction h with
  | here => rfl
  | next _ ih => exact congrArg _ ih

theorem Passes.before_ne_none (h : Passes s w u) (hs : s.before ≠ none) : u.before ≠ none := by
  induction h with
  | here => exact hs
  | next _ ih => exact ih (Option.some_ne_none _)

/-- Only the start of a text has nothing before it. -/
theorem Passes.eq_of_before (h : Passes s w u) (hu : u.before = none) : u = s := by
  cases h with
  | here => rfl
  | next h => exact absurd hu (h.before_ne_none (Option.some_ne_none _))

theorem exists_passes_rest (s : Spot) : ∃ u, Passes s s.rest u ∧ u.rest = [] := by
  obtain ⟨before, cs⟩ := s
  induction cs generalizing before with
  | nil => exact ⟨_, .here, rfl⟩
  | cons c cs ih =>
    obtain ⟨u, hu, hrest⟩ := ih (some c)
    exact ⟨u, .next hu, hrest⟩

end

/-! ## Languages of trees -/

/-- A tree reads the words of a language, wherever it stands. -/
def Spells (n : Node) (L : Language Char) : Prop := ∀ s u, Reads n s u ↔ ∃ w ∈ L, Passes s w u

/-- The words of one character. -/
def letters (set : CharSet) : Language Char := {w | ∃ c, set.contains c = true ∧ w = [c]}

theorem mem_letters_iff {set : CharSet} {w : List Char} :
    w ∈ letters set ↔ ∃ c, set.contains c = true ∧ w = [c] := Iff.rfl

theorem exists_mem_one_iff {s u : Spot} : (∃ w ∈ (1 : Language Char), Passes s w u) ↔ u = s := by
  simp only [Language.mem_one, exists_eq_left, passes_nil_iff]

theorem exists_mem_mul_iff {L M : Language Char} {s u : Spot} : (∃ w ∈ L * M, Passes s w u) ↔
    ∃ t, (∃ v ∈ L, Passes s v t) ∧ ∃ w ∈ M, Passes t w u := by
  constructor
  · rintro ⟨w, hw, hu⟩
    obtain ⟨a, ha, b, hb, rfl⟩ := Language.mem_mul.1 hw
    obtain ⟨t, hat, hbu⟩ := passes_append_iff.1 hu
    exact ⟨t, ⟨a, ha, hat⟩, b, hb, hbu⟩
  · rintro ⟨t, ⟨a, ha, hat⟩, b, hb, hbu⟩
    exact ⟨a ++ b, Language.append_mem_mul ha hb, passes_append_iff.2 ⟨t, hat, hbu⟩⟩

section

variable {a b body : Node} {L M : Language Char}

theorem spells_set (set : CharSet) : Spells (.set set) (letters set) := by
  intro s u
  rw [reads_set_iff]
  constructor
  · obtain ⟨before, rest⟩ := s
    rintro ⟨c, cs, rfl, hset, rfl⟩
    exact ⟨[c], ⟨c, hset, rfl⟩, .next .here⟩
  · rintro ⟨w, ⟨c, hset, rfl⟩, _ | ⟨⟨⟩⟩⟩
    exact ⟨c, _, rfl, hset, rfl⟩

theorem spells_mark (slot : Nat) : Spells (.mark slot) 1 := by
  intro s u
  rw [reads_mark_iff, exists_mem_one_iff]

theorem Spells.seq (ha : Spells a L) (hb : Spells b M) : Spells (.seq a b) (L * M) := by
  intro s u
  rw [reads_seq_iff, exists_mem_mul_iff]
  simp only [ha s, fun t => hb t u]

theorem Spells.alt (ha : Spells a L) (hb : Spells b M) : Spells (.alt a b) (L + M) := by
  intro s u
  rw [reads_alt_iff, ha, hb]
  simp only [Language.mem_add, or_and_right, exists_or]

theorem Spells.group (h : Spells a L) (index : Nat) : Spells (.group index a) L := by
  have hseq := (spells_mark (2 * index)).seq (h.seq (spells_mark (2 * index + 1)))
  rwa [one_mul, mul_one] at hseq

theorem Spells.times (h : Spells body L) (greedy : Bool) (k : Nat) :
    Spells (.repeated k (some k) greedy body) (L ^ k) := by
  induction k with
  | zero =>
    intro s u
    rw [reads_upTo_zero_iff, pow_zero, exists_mem_one_iff]
  | succ k ih =>
    intro s u
    rw [reads_required_iff, pow_succ', exists_mem_mul_iff]
    simp only [h s, ← fun t => ih t u]
    rfl

theorem readsAll_iff_of_spells {ns : List Node} {Ls : List (Language Char)}
    (h : List.Forall₂ Spells ns Ls) {s u : Spot} :
    ReadsAll ns s u ↔ ∃ w ∈ Ls.prod, Passes s w u := by
  induction h generalizing s with
  | nil => rw [readsAll_nil_iff, List.prod_nil, exists_mem_one_iff]
  | cons hn _ ih =>
    rw [readsAll_cons_iff, List.prod_cons, exists_mem_mul_iff]
    simp only [hn s, ih]

theorem Spells.sequence {ns : List Node} {Ls : List (Language Char)}
    (h : List.Forall₂ Spells ns Ls) : Spells (.sequence ns) Ls.prod := by
  intro s u
  rw [reads_sequence_iff, readsAll_iff_of_spells h]

theorem mem_letters_pow_iff {set : CharSet} {k : Nat} {w : List Char} :
    w ∈ letters set ^ k ↔ w.length = k ∧ ∀ c ∈ w, set.contains c = true := by
  induction k generalizing w with
  | zero =>
    rw [pow_zero, Language.mem_one, List.length_eq_zero_iff]
    constructor
    · rintro rfl
      exact ⟨rfl, fun c hc => absurd hc List.not_mem_nil⟩
    · exact And.left
  | succ k ih =>
    rw [pow_succ', Language.mem_mul]
    constructor
    · rintro ⟨v, ⟨c, hc, rfl⟩, w, hw, rfl⟩
      obtain ⟨hlength, hall⟩ := ih.1 hw
      exact ⟨congrArg (· + 1) hlength, List.forall_mem_cons.2 ⟨hc, hall⟩⟩
    · rintro ⟨hlength, hall⟩
      obtain ⟨c, w, rfl⟩ := List.exists_cons_of_length_eq_add_one hlength
      obtain ⟨hc, hall⟩ := List.forall_mem_cons.1 hall
      exact ⟨[c], ⟨c, hc, rfl⟩, w, ih.2 ⟨Nat.succ.inj hlength, hall⟩, rfl⟩

end

/-! ## Whole texts -/

/-- A pattern between the two ends of a text matches its words. -/
theorem isMatch_anchored_iff {p : Pattern} {ns : List Node} {Ls : List (Language Char)}
    (hp : p.node = .sequence (.look .textStart :: (ns ++ [.look .textEnd])))
    (h : List.Forall₂ Spells ns Ls) {text : String} :
    p.isMatch text = true ↔ text.toList ∈ Ls.prod := by
  rw [isMatch_iff, hp]
  constructor
  · rintro ⟨w, s, hw, u, hu⟩
    obtain ⟨s', hstart, hrest⟩ := readsAll_cons_iff.1 (reads_sequence_iff.1 hu)
    obtain ⟨hbefore, rfl⟩ := reads_look_iff.1 hstart
    obtain rfl := hw.eq_of_before (Option.isNone_iff_eq_none.1 hbefore)
    obtain ⟨t, hns, hend⟩ := readsAll_append_iff.1 hrest
    obtain ⟨hafter, rfl⟩ := reads_look_iff.1 (readsAll_singleton_iff.1 hend)
    obtain ⟨v, hv, hpasses⟩ := (readsAll_iff_of_spells h).1 hns
    have hnil : u.rest = [] := List.head?_eq_none_iff.1 (Option.isNone_iff_eq_none.1 hafter)
    have htext : text.toList = v ++ u.rest := hpasses.rest_eq
    rw [hnil, List.append_nil] at htext
    exact htext ▸ hv
  · intro hmem
    obtain ⟨u, hu, hrest⟩ := exists_passes_rest ⟨none, text.toList⟩
    refine ⟨[], _, .here, u, reads_sequence_iff.2 (readsAll_cons_iff.2 ⟨_, .look rfl, ?_⟩)⟩
    refine readsAll_append_iff.2 ⟨u, (readsAll_iff_of_spells h).2 ⟨_, hmem, hu⟩, ?_⟩
    refine readsAll_singleton_iff.2 (.look ?_)
    rw [Look.holds, Spot.place, hrest]
    rfl

end Quarantine.Pattern
