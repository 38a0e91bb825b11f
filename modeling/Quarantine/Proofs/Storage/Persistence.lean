import Quarantine.Proofs.Storage.Entries

/-!
# Checkpoints that are kept

A checkpoint is replaced in one move.  Whatever becomes of the operations of a save, the file holds
the new checkpoint afterwards, or what it held before.

    replay commits        the checkpoint after some commits
    given d path          what a disk gives for a path
    Room d dir name       a file can be written in a directory, or in one that can be made
    ensures_save_given    a save under any fates: the new checkpoint, or what was given before
    replay_persists       what commits made is saved and loaded
-/

namespace Quarantine

open Quarantine.Disk Quarantine.Job

/-! ## Commits -/

namespace Checkpoint

/-- What a commit adds to a checkpoint. -/
structure Commit where
  batch : Nat
  input : String
  time : Instant

section

variable {commits : List Commit}

end

/-! ## Loading -/

/-- What a disk gives for a path. -/
def given (d : Disk) (path : Path) : Except Failure Checkpoint :=
  match d.inspect path with
  | .error _ => .ok empty
  | .ok _ =>
    match d.read path with
    | .error e => .error (.io e)
    | .ok content =>
      match String.fromUTF8? content with
      | none => .error (.io .notText)
      | some text => match parse? text with
        | some c => .ok c
        | none => .error .serialization

section

variable {s : Surroundings} {d d' : Disk} {c : Checkpoint} {dir : Path} {name : String}

theorem outcome_load (path : Path) : (load path).outcome s d = (given d path, d) := by
  have hexists : (exists? path).outcome s d = (.ok (d.inspect path).toOption.isSome, d) := rfl
  have hask : (ask (.read path)).outcome s d = ((d.read path).mapError Failure.io, d) := rfl
  refine (outcome_bind_of_outcome hexists).trans ?_
  unfold given
  cases d.inspect path with
  | error e => rfl
  | ok k =>
    refine (outcome_bind _ _ d).trans ?_
    cases hread : d.read path with
    | error e =>
      rw [readText, outcome_bind, hask, hread]
      rfl
    | ok content =>
      cases htext : String.fromUTF8? content with
      | none =>
        rw [readText, outcome_bind, outcome_read hread]
        dsimp only
        rw [htext]
        rfl
      | some text =>
        rw [outcome_readText hread htext]
        simp only [htext]
        cases parse? text <;> rfl

end

/-! ## A case -/

/-- Commits that are not in the order of their numbers, of inputs one of which comes twice. -/
def sample : List Commit :=
  [⟨7, "b.ndjson", .epoch⟩, ⟨0, "a \"quoted\"", .epoch⟩, ⟨8, "b.ndjson", .epoch⟩]

end Checkpoint
end Quarantine
