import Quarantine.Json.Structure
import Quarantine.Verdict

/-!
# Routing

A record that passes every rule is clean; any other is quarantined, with the names of the rules
that it did not pass.  A routed batch holds both streams in order and a tally for each rule.

    routeAll rules (xs ++ ys)      = merge (routeAll rules xs) (routeAll rules ys)
    routeParallel rules n records  = routeAll rules records
-/

namespace Quarantine

open Quarantine.Json

/-! ## Quarantined records -/

structure Quarantined where
  record : Record
  failedRules : List String

namespace Quarantined

def toValue (q : Quarantined) : Value :=
  .object [("record", q.record.toValue), ("failed_rules", ofStrings q.failedRules)]

def fieldNames : List String := ["record", "failed_rules"]

def ofValue? (v : Value) : Option Quarantined :=
  match parts? fieldNames v with
  | some [some r, some f] => do return ⟨← Record.ofValue? r.merged, ← list? string? f⟩
  | _ => none

def parse? (text : String) : Option Quarantined := (readStructure? fieldNames text).bind ofValue?

end Quarantined

/-- Where a record goes. -/
inductive Routed where
  | clean (r : Record)
  | quarantined (q : Quarantined)

/-- Routes a record by its judgements. -/
def route (r : Record) (js : List Judgement) : Routed :=
  if Judgement.allPassed js then .clean r else .quarantined ⟨r, Judgement.failing js⟩

/-! ## Tallies -/

/-- How many records passed a rule, and how many did not. -/
structure Tally where
  passed : Nat
  failed : Nat
  deriving DecidableEq, Inhabited

namespace Tally

def zero : Tally := ⟨0, 0⟩

def add (a b : Tally) : Tally := ⟨a.passed + b.passed, a.failed + b.failed⟩

/-- The tally of one verdict. -/
def ofVerdict (v : Verdict) : Tally := if v.passed then ⟨1, 0⟩ else ⟨0, 1⟩

/-- Adds tallies place by place; the shorter list counts as continued with zeros. -/
def addAll : List Tally → List Tally → List Tally
  | [], ts => ts
  | ts, [] => ts
  | s :: ss, t :: ts => s.add t :: addAll ss ts

end Tally

/-! ## Batches -/

structure RoutedBatch where
  clean : List Record
  quarantined : List Quarantined
  tallies : List Tally

namespace RoutedBatch

/-- The batch without records, with a tally for each of `n` rules. -/
def new (n : Nat) : RoutedBatch := ⟨[], [], List.replicate n .zero⟩

def merge (a b : RoutedBatch) : RoutedBatch :=
  ⟨a.clean ++ b.clean, a.quarantined ++ b.quarantined, Tally.addAll a.tallies b.tallies⟩

def size (b : RoutedBatch) : Nat := b.clean.length + b.quarantined.length

/-- The batch of a single record. -/
def single (rules : RuleSet) (r : Record) : RoutedBatch :=
  let js := rules.judge r
  let tallies := js.map fun j => Tally.ofVerdict j.verdict
  match route r js with
  | .clean r => ⟨[r], [], tallies⟩
  | .quarantined q => ⟨[], [q], tallies⟩

end RoutedBatch

/-- Routes every record. -/
def routeAll (rules : RuleSet) (records : List Record) : RoutedBatch :=
  let batches := records.map (RoutedBatch.single rules)
  ⟨batches.flatMap RoutedBatch.clean, batches.flatMap RoutedBatch.quarantined,
    batches.foldl (fun ts b => Tally.addAll ts b.tallies) (RoutedBatch.new rules.size).tallies⟩

/-! ## Partitions -/

/-- Consecutive parts of `size` items, the last with what is left. -/
def chunksOf {α : Type} (size : Nat) : (fuel : Nat) → List α → List (List α)
  | 0, _ => []
  | _, [] => []
  | fuel + 1, xs => xs.take size :: chunksOf size fuel (xs.drop size)

/-- The parts that items are split into for a number of partitions: of equal size but for the
last, and none of them empty. -/
def partition {α : Type} (partitions : Nat) (xs : List α) : List (List α) :=
  let n := max partitions 1
  chunksOf ((xs.length + n - 1) / n) xs.length xs

/-- The outcome of each part, with the number of the part. -/
def routeParts (rules : RuleSet) (partitions : Nat) (records : List Record) :
    List (Nat × RoutedBatch) :=
  ((partition partitions records).map (routeAll rules)).zipIdx.map fun (b, i) => (i, b)

/-- Merges numbered outcomes in the order of their numbers, however they came in. -/
def gather (rules : RuleSet) (outcomes : List (Nat × RoutedBatch)) : RoutedBatch :=
  ((outcomes.mergeSort fun a b => a.1 ≤ b.1).map Prod.snd).foldl RoutedBatch.merge
    (RoutedBatch.new rules.size)

/-- Routes the parts each on its own and gathers the outcomes. -/
def routeParallel (rules : RuleSet) (partitions : Nat) (records : List Record) : RoutedBatch :=
  gather rules (routeParts rules partitions records)

end Quarantine
