import Quarantine.Proofs.Json.Merged
import Quarantine.Proofs.Lists
import Quarantine.Storage.PartTable
import Mathlib.Data.List.Induction

/-!
# Edits of a table

Rows are written to a table batch by batch, and the parts of batches that are not committed are
discarded.  What is stored after any number of edits is told without files: for each batch the rows
that were written last, unless they were discarded since.

    stored edits id = some rows  ↔  the last edit that does not spare id writes rows
-/

namespace Quarantine

open Quarantine.Json

namespace PartTable

/-! ## Edits -/

/-- What changes a table. -/
inductive Edit where
  | write (id : Nat) (rows : List Value)
  | discard (committed : Ascending Nat)

/-- The rows that are stored for the batches. -/
abbrev Store := Nat → Option (List Value)

namespace Edit

def job (t : PartTable) : Edit → Job Unit
  | write id rows => Functor.discard (t.writePart id rows)
  | discard committed => Functor.discard (t.discardUncommitted committed)

/-- What is stored after an edit; a batch without rows is not written. -/
def apply (store : Store) : Edit → Store
  | write id rows => fun i => if i = id ∧ rows.isEmpty = false then some rows else store i
  | discard committed => fun i => if committed.contains i then store i else none

/-- An edit of a batch whose number is kept, with rows that are read back. -/
def IsSound : Edit → Prop
  | write id rows => id < 0x10000000000000000 ∧ ∀ v ∈ rows, v.Writable
  | discard _ => True

/-- That an edit leaves a batch alone. -/
def Spares (id : Nat) : Edit → Prop
  | write i rows => i = id → rows.isEmpty = true
  | discard committed => committed.contains id = true

end Edit

def nothingStored : Store := fun _ => none

/-- What is stored after edits of a table without parts. -/
def stored (edits : List Edit) : Store := edits.foldl Edit.apply nothingStored

section

variable {edits : List Edit} {e : Edit} {store : Store} {id : Nat} {rows : List Value}

theorem stored_concat : stored (edits ++ [e]) = e.apply (stored edits) := by
  rw [stored, List.foldl_append]
  rfl

theorem Edit.apply_write (i : Nat) (written : List Value) : (write i written).apply store id =
    if id = i ∧ written.isEmpty = false then some written else store id := rfl

theorem Edit.apply_write_self (h : rows.isEmpty = false) :
    (write id rows).apply store id = some rows := if_pos ⟨rfl, h⟩

theorem Edit.apply_write_of_ne {i : Nat} (h : i ≠ id) :
    (write id rows).apply store i = store i := if_neg fun hi => h hi.1

theorem Edit.apply_discard (committed : Ascending Nat) : (discard committed).apply store id =
    if committed.contains id then store id else none := rfl

theorem Edit.apply_discard_eq_some_iff {committed : Ascending Nat} :
    (discard committed).apply store id = some rows ↔
      committed.contains id = true ∧ store id = some rows := by
  rw [apply_discard]
  split
  · next hin => exact (and_iff_right hin).symm
  · next hout => exact iff_of_false (Option.some_ne_none rows).symm fun h => hout h.1

theorem Edit.apply_discard_ne_none_iff {committed : Ascending Nat} :
    (discard committed).apply store id ≠ none ↔
      committed.contains id = true ∧ store id ≠ none := by
  simp only [Option.ne_none_iff_exists', apply_discard_eq_some_iff, exists_and_left]

theorem Edit.Spares.apply_eq (h : e.Spares id) : e.apply store id = store id := by
  cases e with
  | write i rows => exact if_neg fun hi => by rw [h hi.1.symm] at hi; exact absurd hi.2 (by decide)
  | discard committed => exact if_pos h

/-- What is stored was written last and not discarded since. -/
theorem stored_eq_some_iff : stored edits id = some rows ↔ rows.isEmpty = false ∧
    ∃ before after, edits = before ++ .write id rows :: after ∧ ∀ e ∈ after, e.Spares id := by
  induction edits using List.reverseRecOn with
  | nil =>
    constructor
    · intro h
      cases h
    · rintro ⟨-, before, after, h, -⟩
      exact absurd h.symm (List.append_ne_nil_of_right_ne_nil _ (List.cons_ne_nil _ _))
  | append_singleton edits e ih =>
    rw [stored_concat]
    by_cases hspares : e.Spares id
    · rw [hspares.apply_eq, ih]
      refine and_congr_right fun hrows => ⟨?_, ?_⟩
      · rintro ⟨before, after, rfl, hafter⟩
        refine ⟨before, after ++ [e], by rw [List.append_assoc, List.cons_append], fun f hf => ?_⟩
        rcases List.mem_append.1 hf with hf | hf
        · exact hafter f hf
        · exact List.mem_singleton.1 hf ▸ hspares
      · rintro ⟨before, after, h, hafter⟩
        rcases concat_eq_append_cons h with ⟨-, rfl, -⟩ | ⟨rest, rfl, hedits⟩
        · rw [hspares rfl] at hrows
          cases hrows
        · exact ⟨before, rest, hedits, fun f hf => hafter f (List.mem_append_left _ hf)⟩
    · -- the last edit decides
      have hlast (before after : List Edit) (h : edits ++ [e] = before ++ .write id rows :: after)
          (hafter : ∀ f ∈ after, f.Spares id) : e = .write id rows := by
        rcases concat_eq_append_cons h with ⟨-, he, -⟩ | ⟨rest, rfl, -⟩
        · exact he
        · exact absurd (hafter e (List.mem_append_right _ List.mem_cons_self)) hspares
      constructor
      · intro h
        cases e with
        | write i written =>
          simp only [Edit.Spares, Classical.not_imp, Bool.not_eq_true] at hspares
          obtain ⟨rfl, hwritten⟩ := hspares
          rw [Edit.apply_write_self hwritten] at h
          obtain rfl := Option.some.inj h
          exact ⟨hwritten, edits, [], rfl, fun f hf => absurd hf List.not_mem_nil⟩
        | discard committed =>
          exact absurd (Edit.apply_discard_eq_some_iff.1 h).1 hspares
      · rintro ⟨hrows, before, after, h, hafter⟩
        rw [hlast before after h hafter]
        exact Edit.apply_write_self hrows

/-! ## Stored rows that are read back -/

/-- That the numbers of batches are kept and their rows are read back. -/
def Store.IsSound (store : Store) : Prop := ∀ id rows, store id = some rows →
  id < 0x10000000000000000 ∧ ∀ v ∈ rows, v.Writable

theorem Store.IsSound.apply (h : store.IsSound) {e : Edit} (he : e.IsSound) :
    Store.IsSound (e.apply store) := by
  intro id rows hrows
  cases e with
  | write i written =>
    rw [Edit.apply_write] at hrows
    split at hrows
    · next hi =>
      obtain rfl := Option.some.inj hrows
      exact hi.1 ▸ he
    · exact h id rows hrows
  | discard committed =>
    exact h id rows (Edit.apply_discard_eq_some_iff.1 hrows).2

end

end PartTable
end Quarantine
