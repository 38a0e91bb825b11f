import Quarantine.Ascending
import Quarantine.Decimal.Word
import Quarantine.Storage.Rows

/-!
# Tables of parts

A table is a directory with a file of rows for each batch.  A part counts once its batch is
committed; others, and files that were not completed, are ignored when the table is read, and
can be discarded.

    partId? (partName n) = some n
    readCommitted C = the rows of the parts in C, in the order of the batches
-/

namespace Quarantine

open Quarantine.Json

structure PartTable where
  directory : Path
  deriving DecidableEq

namespace PartTable

/-! ## Names of parts -/

def partBeginning : String := "part-"

def partEnding : String := ".ndjson"

/-- The least number of digits in the name of a part. -/
def partDigits : Nat := 10

def partName (id : Nat) : String := partBeginning ++ Instant.padded partDigits id ++ partEnding

/-- The batch that a file of this name is a part of. -/
def partId? (name : String) : Option Nat := do
  let rest ← partBeginning.toList.isPrefixOf? name.toList
  Decimal.unsigned? (← partEnding.toList.isSuffixOf? rest)

def partPath (t : PartTable) (id : Nat) : Path := t.directory.join (partName id)

/-! ## Parts -/

/-- Writes the rows of a batch; for none there is no file. -/
def writePart (t : PartTable) (id : Nat) (rows : List Value) : Job (Option Path) :=
  if rows.isEmpty then return none
  else do
    Job.ensureDirectory t.directory
    Job.writeWhole (t.partPath id) (Rows.render rows)
    return some (t.partPath id)

/-- The names in the table, if it is there. -/
def names (t : PartTable) : Job (List String) := do
  if ← Job.exists? t.directory then
    return (← Job.ask (.list t.directory)).map Prod.fst
  else return []

/-- The batches with parts, committed or not. -/
def partIds (t : PartTable) : Job (Ascending Nat) :=
  return .ofList ((← t.names).filterMap partId?)

def readPart {α : Type} (t : PartTable) (parse? : String → Option α) (id : Nat) :
    Job (List α) := do
  let path := t.partPath id
  liftExcept (Rows.ofBytes path (Rows.decoded parse?) (← Job.ask (.read path)))

/-- The rows of the committed batches. -/
def readCommitted {α : Type} (t : PartTable) (parse? : String → Option α)
    (committed : Ascending Nat) : Job (List α) := do
  let ids := (← t.partIds).filter committed.contains
  return (← ids.items.mapM (t.readPart parse?)).flatten

/-- Whether a file is of no use: not completed, or a part of a batch that is not committed. -/
def isStale (committed : Ascending Nat) (name : String) : Bool :=
  Path.temporaryEnding.toList.isSuffixOf name.toList ||
    (partId? name).any fun id => !committed.contains id

/-- Removes the files of no use, and counts them. -/
def discardUncommitted (t : PartTable) (committed : Ascending Nat) : Job Nat := do
  let stale := (← t.names).filter (isStale committed)
  stale.forM fun name => Job.ask (.remove (t.directory.join name))
  return stale.length

end PartTable
end Quarantine
