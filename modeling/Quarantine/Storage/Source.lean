import Quarantine.Storage.Checkpoint
import Quarantine.Storage.Rows

/-!
# Sources

A source gives records batch by batch: lists that it holds, or the files of a directory in the
order of their names, one batch for each.  A directory is listed once.  Its files leave the
queue when they are committed, so one whose batch was not committed is given again.
-/

namespace Quarantine

/-- The records of a batch, and the name of where they came from. -/
structure InputBatch where
  source : String
  records : List Record

inductive Source where
  /-- Lists of records, and the number of lists given before. -/
  | memory (batches : List (List Record)) (served : Nat)
  /-- A directory, and once it is listed the names of the files that are still to come. -/
  | directory (path : Path) (pending : Option (List String))

namespace Source

def ofBatches (batches : List (List Record)) : Source := .memory batches 0

def ofDirectory (path : Path) : Source := .directory path none

/-- A list of records more, at the end; a directory stays as it is. -/
def push (records : List Record) : Source → Source
  | memory batches served => memory (batches ++ [records]) served
  | s => s

/-- The batches that are known to be still to come. -/
def size : Source → Nat
  | memory batches _ => batches.length
  | directory _ pending => (pending.getD []).length

/-! ## Directories -/

/-- The extensions of the files that hold records. -/
def inputExtensions : List String := ["ndjson", "jsonl"]

def isInput (name : String) (kind : Kind) : Bool :=
  kind == .file && (Path.extensionOf name).any inputExtensions.contains

/-- The input files of a directory that are not in a checkpoint, in the order of their names. -/
def inputs (path : Path) (c : Checkpoint) : Job (List String) := do
  let found ← Job.ask (.list path)
  return ((found.filter fun (name, kind) => isInput name kind).map Prod.fst).filter
    fun name => !c.isProcessed name

/-- The queue, listed now if it was not before. -/
def queue (path : Path) (c : Checkpoint) : Option (List String) → Job (List String)
  | some names => pure names
  | none => inputs path c

def readInput (path : Path) (name : String) : Job (List Record) := do
  let file := path.join name
  liftExcept (Rows.records file (← Job.readText file))

/-! ## Batches -/

/-- The next batch, if there is one, and the source after it. -/
def next (c : Checkpoint) : Source → Action (Except Failure (Option InputBatch) × Source)
  | memory [] served => pure (.ok none, memory [] served)
  | memory (records :: rest) served =>
    pure (.ok (some ⟨"memory-" ++ toString served, records⟩), memory rest (served + 1))
  | directory path pending => do
    match ← (queue path c pending).run with
    | .error e => return (.error e, directory path pending)
    | .ok names =>
      let names := names.dropWhile c.isProcessed
      match names with
      | [] => return (.ok none, directory path (some []))
      | name :: _ =>
        let records ← (readInput path name).run
        return (records.map fun rs => some ⟨name, rs⟩, directory path (some names))

/-- The columns of the first record of some files. -/
def firstColumns (path : Path) : List String → Job (Option (List String))
  | [] => pure none
  | name :: rest => do
    match ← readInput path name with
    | r :: _ => return some r.columns
    | [] => firstColumns path rest

/-- The columns of the first record in the queue, and the source with its queue. -/
def inferColumns (c : Checkpoint) :
    Source → Action (Except Failure (Option (List String)) × Source)
  | memory batches served =>
    pure (.ok (batches.flatten.head?.map Record.columns), memory batches served)
  | directory path pending => do
    match ← (queue path c pending).run with
    | .error e => return (.error e, directory path pending)
    | .ok names =>
      let columns ← (firstColumns path names).run
      return (columns, directory path (some names))

end Source
end Quarantine
