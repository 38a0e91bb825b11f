import Quarantine.Storage.PartTable

/-!
# Layout

The places of the tables and of the checkpoint under one root:

    <root>/clean             records that passed every rule
    <root>/quarantine        records that did not
    <root>/clean_processed   quarantined records after redaction
    <root>/metrics           events
    <root>/system/events     progress entries
    <root>/_checkpoint.json  the checkpoint
-/

namespace Quarantine

structure Layout where
  root : Path
  deriving DecidableEq

namespace Layout

def clean (l : Layout) : PartTable := ⟨l.root.join "clean"⟩

def quarantine (l : Layout) : PartTable := ⟨l.root.join "quarantine"⟩

def processed (l : Layout) : PartTable := ⟨l.root.join "clean_processed"⟩

def metrics (l : Layout) : PartTable := ⟨l.root.join "metrics"⟩

def entries (l : Layout) : PartTable := ⟨(l.root.join "system").join "events"⟩

def tables (l : Layout) : List PartTable :=
  [l.clean, l.quarantine, l.processed, l.metrics, l.entries]

def checkpoint (l : Layout) : Path := l.root.join "_checkpoint.json"

/-- Makes the directories of all tables. -/
def ensure (l : Layout) : Job Unit := l.tables.forM fun t => Job.ensureDirectory t.directory

end Layout
end Quarantine
