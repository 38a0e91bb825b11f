import Quarantine.Routing
import Quarantine.Selection

/-!
# Processing quarantined records

The redactions of a plan are applied to a record one after the other, each to the outcome of
the one before.  If one fails, the record is left as it was and carries the reason.

    process q p = q's record redacted by all of p, or q's record with the first failure
-/

namespace Quarantine

open Quarantine.Json

/-! ## Processed records -/

inductive Outcome where
  | applied (rules : List String)
  | failed (rule reason : String)
  deriving DecidableEq

namespace Outcome

def toValue : Outcome → Value
  | applied rules => .object [("status", .string "applied"), ("rules", ofStrings rules)]
  | failed rule reason =>
    .object [("status", .string "failed"), ("rule", .string rule), ("reason", .string reason)]

/-- The outcome of a status, the parts of which a value holds. -/
def ofStatus? (status : String) (v : Value) : Option Outcome :=
  match status with
  | "applied" =>
    match parts? ["rules"] v with
    | some [some rs] => (list? string? rs).map applied
    | _ => none
  | "failed" =>
    match parts? ["rule", "reason"] v with
    | some [some rule, some reason] => do return failed (← string? rule) (← string? reason)
    | _ => none
  | _ => none

/-- The status is a field of its own, or the first item of an array. -/
def ofValue? : Value → Option Outcome
  | .object fields => do
    let status ← (← uniqueField? fields "status").bind string?
    ofStatus? status (.object (fields.filter (·.1 != "status")))
  | .array (status :: rest) => do ofStatus? (← string? status) (.array rest)
  | _ => none

def isApplied : Outcome → Bool
  | applied _ => true
  | failed .. => false

end Outcome

structure Processed where
  record : Record
  failedRules : List String
  redaction : Outcome

namespace Processed

def toValue (p : Processed) : Value :=
  .object [("record", p.record.toValue), ("failed_rules", ofStrings p.failedRules),
    ("redaction", p.redaction.toValue)]

def fieldNames : List String := ["record", "failed_rules", "redaction"]

def ofValue? (v : Value) : Option Processed :=
  match parts? fieldNames v with
  | some [some r, some f, some o] => do
    return ⟨← Record.ofValue? r.merged, ← list? string? f, ← Outcome.ofValue? o⟩
  | _ => none

def parse? (text : String) : Option Processed := (readStructure? fieldNames text).bind ofValue?

def isRedacted (p : Processed) : Bool := p.redaction.isApplied

end Processed

/-! ## Redaction -/

/-- The first rule that failed, and why. -/
structure RedactionFailure where
  rule : String
  failure : Failure
  deriving DecidableEq

/-- Redacts a record with one rule after the other. -/
def redactWith (r : Record) : List Rule → Except RedactionFailure Record
  | [] => .ok r
  | rule :: rest =>
    match rule.redact r with
    | .ok (target, v) => redactWith (r.put target v) rest
    | .error e => .error ⟨rule.name, e⟩

namespace Plan

def redact (p : Plan) (r : Record) : Except RedactionFailure Record := redactWith r p.rules

/-- The processed form of a quarantined record. -/
def process (p : Plan) (q : Quarantined) : Processed :=
  match p.redact q.record with
  | .ok r => ⟨r, q.failedRules, .applied p.names⟩
  | .error e => ⟨q.record, q.failedRules, .failed e.rule e.failure.message⟩

def processLog (p : Plan) (q : Quarantined) : List Log.Line :=
  match p.redact q.record with
  | .ok _ => []
  | .error e => [Log.warn ("Passing record through un-redacted: " ++ e.failure.message)]

end Plan
end Quarantine
