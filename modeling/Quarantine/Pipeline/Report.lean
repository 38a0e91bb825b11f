import Quarantine.Json.Fields

/-!
# Reports

What happened to a batch, and to all batches of a run.
-/

namespace Quarantine

open Quarantine.Json

structure BatchReport where
  batch : Nat
  source : String
  records : Nat
  clean : Nat
  quarantined : Nat
  /-- Quarantined records that every selected redaction was applied to. -/
  redacted : Nat
  /-- Quarantined records that were left as they were. -/
  redactionFailures : Nat
  /-- The rules whose redactions were selected, in order. -/
  selected : List String
  deriving DecidableEq

def BatchReport.toValue (b : BatchReport) : Value :=
  .object [("batch_id", ofNat b.batch), ("source_id", .string b.source),
    ("records", ofNat b.records), ("clean", ofNat b.clean),
    ("quarantined", ofNat b.quarantined), ("redacted", ofNat b.redacted),
    ("redaction_failures", ofNat b.redactionFailures),
    ("selected_redactions", ofStrings b.selected)]

structure RunSummary where
  batches : List BatchReport
  /-- The rules that have failed by the end of the run, ascending. -/
  failedRules : List String
  deriving DecidableEq

namespace RunSummary

/-- A count summed over the batches. -/
def sum (s : RunSummary) (count : BatchReport → Nat) : Nat := s.batches.foldr (fun b n => count b + n) 0

def records (s : RunSummary) : Nat := s.sum BatchReport.records

def clean (s : RunSummary) : Nat := s.sum BatchReport.clean

def quarantined (s : RunSummary) : Nat := s.sum BatchReport.quarantined

def redacted (s : RunSummary) : Nat := s.sum BatchReport.redacted

def redactionFailures (s : RunSummary) : Nat := s.sum BatchReport.redactionFailures

def toValue (s : RunSummary) : Value :=
  .object [("batches", .array (s.batches.map BatchReport.toValue)), ("records", ofNat s.records),
    ("clean", ofNat s.clean), ("quarantined", ofNat s.quarantined),
    ("redaction_failures", ofNat s.redactionFailures),
    ("failed_rules", ofStrings s.failedRules)]

end RunSummary
end Quarantine
