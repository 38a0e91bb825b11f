import Quarantine.Failure
import Quarantine.Log
import Quarantine.Metrics.Event
import Quarantine.Routing

/-!
# Progress entries

Each batch leaves an entry in the event log.  Its details hold an expectation for each rule:

    {"flow_progress": {"data_quality": {"expectations":
      [{"name": …, "dataset": …, "passed_records": …, "failed_records": …}]}}}

or are a text that writes such a value.  An entry is unpacked as a whole or not at all; a log
is aggregated by unpacking its progress entries and leaving out those that cannot be.

    events (progress id t d rules tallies) = one event per rule and tally, in order
-/

namespace Quarantine

open Quarantine.Json

/-- The only type of entry that is read. -/
def progressType : String := "flow_progress"

structure Entry where
  id : String
  timestamp : Instant
  type : String
  details : Value

namespace Entry

/-! ## Written entries -/

def toValue (e : Entry) : Value :=
  .object [("id", .string e.id), ("timestamp", .string e.timestamp.render),
    ("event_type", .string e.type), ("details", e.details)]

def fieldNames : List String := ["id", "timestamp", "event_type", "details"]

/-- An entry may lack an identifier and details. -/
def ofValue? (v : Value) : Option Entry :=
  match parts? fieldNames v with
  | some [id, some t, some type, details] => do
    let id ← match id with
      | none => some ""
      | some v => string? v
    return ⟨id, ← (string? t).bind Instant.parse?, ← string? type,
      (details.getD .null).merged⟩
  | _ => none

def parse? (text : String) : Option Entry := (readStructure? fieldNames text).bind ofValue?

def render (e : Entry) : String := e.toValue.render

/-! ## Building -/

/-- What an entry says of one rule. -/
def expectation (dataset name : String) (t : Tally) : Value :=
  .object [("name", .string name), ("dataset", .string dataset),
    ("passed_records", ofNat t.passed), ("failed_records", ofNat t.failed)]

/-- The entry of a batch; rules and tallies go together, and the longer list is cut. -/
def progress (id : String) (timestamp : Instant) (dataset : String) (rules : RuleSet)
    (tallies : List Tally) : Entry where
  id
  timestamp
  type := progressType
  details := .object [(progressType, .object [
    ("status", .string "COMPLETED"),
    ("data_quality", .object [
      ("expectations", .array (List.zipWith (expectation dataset) rules.names tallies))])])]

def isProgress (e : Entry) : Bool := e.type == progressType

/-! ## Unpacking -/

/-- A failure to unpack the entry. -/
def malformed (e : Entry) (fault : EntryFault) : Failure :=
  .aggregation e.id e.timestamp.display fault

def require {α : Type} (e : Entry) (fault : EntryFault) : Option α → Except Failure α
  | some a => .ok a
  | none => .error (e.malformed fault)

/-- The event of one expectation. -/
def event (e : Entry) (v : Value) : Except Failure Event := do
  let text (name : String) := e.require (.noText name) ((v.field? name).bind string?)
  let count (name : String) := e.require (.noCount name) ((v.field? name).bind natural?)
  let step ← text "dataset"
  let rule ← text "name"
  let passed ← count "passed_records"
  let failed ← count "failed_records"
  return ⟨e.timestamp, step, rule, passed, failed⟩

/-- The details as a value; a text is read. -/
def detailsValue (e : Entry) : Except Failure Value :=
  match e.details with
  | .string text => e.require .notJson (Json.parse? text)
  | v => .ok v

/-- The events of an entry. -/
def events (e : Entry) : Except Failure (List Event) := do
  let details ← e.detailsValue
  let progress ← e.require .noProgress (details.field? progressType)
  let quality ← e.require .noQuality (progress.field? "data_quality")
  let expectations ← e.require .noExpectations
    ((quality.field? "expectations").bind fun v =>
      match v with
      | .array vs => some vs
      | _ => none)
  expectations.mapM e.event

/-- The log line for an entry that is left out. -/
def skipped (failure : Failure) : Log.Line :=
  Log.warn ("Skipping log entry: " ++ failure.message)

/-- What is left out, as log lines. -/
def skippedLog (results : List (Except Failure (List Event))) : List Log.Line :=
  results.flatMap fun
    | .error f => [skipped f]
    | .ok _ => []

end Entry

/-! ## Logs -/

/-- The unpacked progress entries of a log. -/
def unpacked (entries : List Entry) : List (Except Failure (List Event)) :=
  (entries.filter Entry.isProgress).map Entry.events

/-- The events of the progress entries of a log that can be unpacked. -/
def aggregate (entries : List Entry) : List Event :=
  (unpacked entries).flatMap fun
    | .ok events => events
    | .error _ => []

def aggregateLog (entries : List Entry) : List Log.Line :=
  Entry.skippedLog (unpacked entries) ++
    [Log.debug ("Aggregated " ++ toString (aggregate entries).length ++ " evaluation event(s).")]

end Quarantine
