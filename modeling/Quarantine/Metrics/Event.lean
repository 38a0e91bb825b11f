import Quarantine.Instant.Parser
import Quarantine.Json.Structure

/-!
# Evaluation events

An event says how many records of a batch passed a rule, and how many did not.
-/

namespace Quarantine

open Quarantine.Json

structure Event where
  timestamp : Instant
  /-- The dataset that the rule was evaluated for. -/
  step : String
  rule : String
  passed : Nat
  failed : Nat
  deriving DecidableEq

namespace Event

def toValue (e : Event) : Value :=
  .object [("timestamp", .string e.timestamp.render), ("step", .string e.step),
    ("rule_name", .string e.rule), ("passed", ofNat e.passed), ("failed", ofNat e.failed)]

def fieldNames : List String := ["timestamp", "step", "rule_name", "passed", "failed"]

def ofValue? (v : Value) : Option Event :=
  match parts? fieldNames v with
  | some [some t, some s, some r, some p, some f] => do
    return ⟨← (string? t).bind Instant.parse?, ← string? s, ← string? r, ← natural? p,
      ← natural? f⟩
  | _ => none

def parse? (text : String) : Option Event := (readStructure? fieldNames text).bind ofValue?

/-- Whether some record did not pass. -/
def hasFailures (e : Event) : Bool := e.failed ≥ 1

end Event
end Quarantine
