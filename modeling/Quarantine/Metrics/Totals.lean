import Quarantine.Metrics.Event

/-!
# Totals

Events are summed for each rule, in the order in which the rules are first seen; and for each
rule within windows of time, the windows in order of time.  A window is a number of seconds,
and windows start at multiples of it; without a positive number each instant is a window.

    start w t ≤ t < start w t + w
-/

namespace Quarantine

open Quarantine.Json

/-! ## Totals by rule -/

structure Totals where
  rule : String
  passed : Nat
  failed : Nat
  deriving DecidableEq

namespace Totals

/-- Adds an event to the row of its rule, or as a new row. -/
def add : List Totals → Event → List Totals
  | [], e => [⟨e.rule, e.passed, e.failed⟩]
  | t :: rest, e =>
    if t.rule = e.rule then ⟨t.rule, t.passed + e.passed, t.failed + e.failed⟩ :: rest
    else t :: add rest e

def toValue (t : Totals) : Value :=
  .object [("rule_name", .string t.rule), ("passed", ofNat t.passed), ("failed", ofNat t.failed)]

end Totals

def totals (events : List Event) : List Totals := events.foldl Totals.add []

/-! ## Totals by window -/

structure WindowTotals where
  start : Instant
  rule : String
  passed : Nat
  failed : Nat
  deriving DecidableEq

namespace WindowTotals

def toValue (t : WindowTotals) : Value :=
  .object [("window_start", .string t.start.render), ("rule_name", .string t.rule),
    ("passed", ofNat t.passed), ("failed", ofNat t.failed)]

end WindowTotals

/-- The whole seconds of a count of milliseconds, cut toward zero. -/
def wholeSeconds (millis : Int) : Int := Int.tdiv millis 1000

/-- The start of the window of an instant.  Where that is too early to be an instant, the
instant itself. -/
def windowStart (seconds : Int) (t : Instant) : Instant :=
  if seconds > 0 then (Instant.of? (t.seconds - t.seconds % seconds) 0).getD t else t

/-- A window with the events in it summed by rule. -/
structure Window where
  start : Instant
  rows : List Totals

/-- Adds an event to the window with the given start; windows stay in order of time. -/
def Window.add (start : Instant) (e : Event) : List Window → List Window
  | [] => [⟨start, Totals.add [] e⟩]
  | w :: rest =>
    if w.start = start then ⟨start, Totals.add w.rows e⟩ :: rest
    else if start.lt w.start then ⟨start, Totals.add [] e⟩ :: w :: rest
    else w :: Window.add start e rest

def windows (seconds : Int) (events : List Event) : List Window :=
  events.foldl (fun ws e => Window.add (windowStart seconds e.timestamp) e ws) []

def windowTotals (seconds : Int) (events : List Event) : List WindowTotals :=
  (windows seconds events).flatMap fun w =>
    w.rows.map fun t => ⟨w.start, t.rule, t.passed, t.failed⟩

end Quarantine
