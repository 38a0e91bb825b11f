import Quarantine.Ascending
import Quarantine.Instant.Parser
import Quarantine.Json.Structure
import Quarantine.Storage.Job

/-!
# Checkpoints

A checkpoint says which batches are committed and which inputs they came from.  It is kept in
one file, which is replaced as a whole.

    (commit c n s t).isProcessed s' ↔ s' = s or c.isProcessed s'
    next c is above every committed batch
-/

namespace Quarantine

open Quarantine.Json

structure Checkpoint where
  batches : Ascending Nat
  /-- The inputs whose batches are committed. -/
  inputs : Ascending String
  /-- The time of the last batch. -/
  updated : Option Instant

namespace Checkpoint

def empty : Checkpoint := ⟨.empty, .empty, none⟩

instance : Inhabited Checkpoint := ⟨empty⟩

/-- The number of the batch after the committed ones. -/
def next (c : Checkpoint) : Nat := c.batches.last?.elim 0 (· + 1)

def isProcessed (c : Checkpoint) (input : String) : Bool := c.inputs.contains input

/-- The checkpoint with a batch more. -/
def commit (c : Checkpoint) (batch : Nat) (input : String) (time : Instant) : Checkpoint where
  batches := c.batches.insert batch
  inputs := c.inputs.insert input
  updated := some time

theorem isProcessed_commit (c : Checkpoint) (batch : Nat) (input input' : String)
    (time : Instant) : (c.commit batch input time).isProcessed input' = true ↔
      input' = input ∨ c.isProcessed input' = true :=
  Ascending.contains_insert input' input c.inputs

theorem lt_next {c : Checkpoint} {batch : Nat} (h : c.batches.contains batch = true) :
    batch < c.next := by
  unfold next
  cases hl : c.batches.last? with
  | none =>
    have : c.batches.items = [] := List.getLast?_eq_none_iff.1 hl
    simp [Ascending.contains, this] at h
  | some last =>
    rcases Ascending.eq_or_lt_of_last? hl h with h | h
    · exact h ▸ Nat.lt_succ_self _
    · exact Nat.lt_succ_of_lt h

/-! ## Written checkpoints -/

def toValue (c : Checkpoint) : Value :=
  .object [("committed_batches", .array (c.batches.items.map ofNat)),
    ("processed_inputs", ofStrings c.inputs.items),
    ("updated_at", c.updated.elim .null fun t => .string t.render)]

/-- An instant, or null for none. -/
def instant? : Value → Option (Option Instant)
  | .null => some none
  | v => ((string? v).bind Instant.parse?).map some

def fieldNames : List String := ["committed_batches", "processed_inputs", "updated_at"]

/-- Each part may be missing. -/
def ofValue? (v : Value) : Option Checkpoint :=
  match parts? fieldNames v with
  | some [batches, inputs, updated] => do
    return ⟨.ofList (← batches.elim (some []) (list? natural?)),
      .ofList (← inputs.elim (some []) (list? string?)), ← updated.elim (some none) instant?⟩
  | _ => none

def parse? (text : String) : Option Checkpoint := (readStructure? fieldNames text).bind ofValue?

def render (c : Checkpoint) : String := c.toValue.renderIndented

/-! ## Files -/

/-- The checkpoint in a file; the empty one if there is no file. -/
def load (path : Path) : Job Checkpoint := do
  if ← Job.exists? path then
    match parse? (← Job.readText path) with
    | some c => return c
    | none => throw .serialization
  else return empty

def save (c : Checkpoint) (path : Path) : Job Unit := do
  Job.makeDirectories path.parents
  Job.writeWhole path c.render

end Checkpoint
end Quarantine
