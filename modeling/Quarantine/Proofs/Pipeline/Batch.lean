import Quarantine.Pipeline.Batch
import Quarantine.Proofs.Metrics.RoundTrip
import Quarantine.Proofs.Routing
import Quarantine.Proofs.Storage.Layout

/-!
# Batches one after another

The outcome of a batch is a function of its records and of the events of the batches before it,
but for the identifier of its entry, which shows in the rows of the entries only.

    outcomes h (b₀, b₁, …) = after h b₀, after (h ++ events b₀) b₁, …
-/

namespace Quarantine

open Quarantine.Json

/-! ## One batch -/

namespace BatchOutcome

/-- The outcome of a batch that comes after a history of events. -/
def after (rules : RuleSet) (time : Instant) (history : List Event) (id : String)
    (records : List Record) : BatchOutcome :=
  let routed := routeAll rules records
  let entry := Entry.progress id time cleanDataset rules routed.tallies
  let events := aggregate [entry]
  let plan := Plan.select (.ofEvents (history ++ events)) rules
  ⟨routed.clean, routed.quarantined, routed.quarantined.map plan.process, entry, events, plan⟩

/-- The number of partitions does not matter. -/
theorem of_eq_after (rules : RuleSet) (partitions : Nat) (id : String) (time : Instant)
    (history : List Event) (records : List Record) :
    BatchOutcome.of rules partitions id time (fun events => .ofEvents (history ++ events))
      records = after rules time history id records := by
  unfold BatchOutcome.of after
  rw [routeParallel_eq]

section

variable (rules : RuleSet) (partitions : Nat) (id : String) (time : Instant)
  (failed : List Event → FailedRules) (records : List Record)

theorem clean_of : (BatchOutcome.of rules partitions id time failed records).clean =
    (routeAll rules records).clean := by
  unfold BatchOutcome.of
  rw [routeParallel_eq]

theorem quarantined_of : (BatchOutcome.of rules partitions id time failed records).quarantined =
    (routeAll rules records).quarantined := by
  unfold BatchOutcome.of
  rw [routeParallel_eq]

theorem processed_of_eq_nil_iff :
    (BatchOutcome.of rules partitions id time failed records).processed = [] ↔
      (routeAll rules records).quarantined = [] := by
  unfold BatchOutcome.of
  rw [routeParallel_eq]
  exact List.map_eq_nil_iff

end

/-- The rows that a batch adds to a table. -/
def rows (o : BatchOutcome) : TableKind → List Value
  | .clean => o.clean.map Record.toValue
  | .quarantine => o.quarantined.map Quarantined.toValue
  | .processed => o.processed.map Processed.toValue
  | .entries => [o.entry.toValue]
  | .metrics => o.events.map Event.toValue

theorem clean_after (rules : RuleSet) (time : Instant) (history : List Event) (id : String)
    (records : List Record) : (after rules time history id records).clean =
      (routeAll rules records).clean := rfl

theorem quarantined_after (rules : RuleSet) (time : Instant) (history : List Event)
    (id : String) (records : List Record) : (after rules time history id records).quarantined =
      (routeAll rules records).quarantined := rfl

theorem events_after (rules : RuleSet) (time : Instant) (history : List Event) (id : String)
    (records : List Record) : (after rules time history id records).events =
      progressEvents time cleanDataset rules (routeAll rules records).tallies :=
  aggregate_progress id time cleanDataset rules _

theorem processed_after (rules : RuleSet) (time : Instant) (history : List Event) (id : String)
    (records : List Record) : (after rules time history id records).processed =
      (routeAll rules records).quarantined.map (Plan.select (.ofEvents (history ++
        progressEvents time cleanDataset rules (routeAll rules records).tallies)) rules).process := by
  unfold after
  simp only [aggregate_progress]

/-- What the entry is called shows in the rows of the entries only. -/
theorem rows_after_eq (rules : RuleSet) (time : Instant) (history : List Event)
    (id id' : String) (records : List Record) {k : TableKind} (hk : k ≠ .entries) :
    (after rules time history id records).rows k =
      (after rules time history id' records).rows k := by
  cases k with
  | clean => rw [rows, rows, clean_after, clean_after]
  | quarantine => rw [rows, rows, quarantined_after, quarantined_after]
  | processed => rw [rows, rows, processed_after, processed_after]
  | metrics => rw [rows, rows, events_after, events_after]
  | entries => exact absurd rfl hk

theorem rows_ne_nil_iff (rules : RuleSet) (time : Instant) (history : List Event)
    (id id' : String) (records : List Record) (k : TableKind) :
    (after rules time history id records).rows k ≠ [] ↔
      (after rules time history id' records).rows k ≠ [] := by
  by_cases hk : k = .entries
  · subst hk
    simp [rows]
  · rw [rows_after_eq rules time history id id' records hk]

theorem ofBytes_progressEvents (path : Path) (time : Instant) (dataset : String)
    (rules : RuleSet) (tallies : List Tally) :
    Rows.ofBytes path (Rows.decoded Event.parse?)
      (Rows.render ((progressEvents time dataset rules tallies).map Event.toValue)).toUTF8 =
        .ok (progressEvents time dataset rules tallies) := by
  refine Rows.ofBytes_render (fun e he => ?_) fun e _ => ⟨_, Event.fits_toValue e⟩
  obtain ⟨hpassed, hfailed⟩ := counts_lt_of_mem_progressEvents he
  exact Event.parse?_render hpassed hfailed

/-- The entry of a batch is read from the rows that it adds. -/
theorem ofBytes_progress (path : Path) (id : String) (time : Instant) (dataset : String)
    (rules : RuleSet) (tallies : List Tally) :
    Rows.ofBytes path (Rows.decoded Entry.parse?)
      (Rows.render [(Entry.progress id time dataset rules tallies).toValue]).toUTF8 =
        .ok [Entry.progress id time dataset rules tallies] := by
  show Rows.ofBytes path _ (Rows.render (List.map Entry.toValue [_])).toUTF8 = _
  refine Rows.ofBytes_render ?_ ?_
  · intro e he
    rw [List.mem_singleton.1 he]
    exact Entry.parse?_render_progress ..
  · intro e he
    rw [List.mem_singleton.1 he]
    exact ⟨_, Entry.fits_progress ..⟩

/-- The events of a batch are read from the rows that it adds. -/
theorem ofBytes_events (path : Path) (rules : RuleSet) (time : Instant) (history : List Event)
    (id : String) (records : List Record) :
    Rows.ofBytes path (Rows.decoded Event.parse?)
      (Rows.render ((after rules time history id records).rows .metrics)).toUTF8 =
        .ok (after rules time history id records).events := by
  rw [rows, events_after]
  exact ofBytes_progressEvents ..

/-- Each record of a batch is clean or quarantined, and it is so once. -/
theorem records_perm (rules : RuleSet) (time : Instant) (history : List Event) (id : String)
    (records : List Record) :
    ((after rules time history id records).clean ++
      (after rules time history id records).quarantined.map Quarantined.record).Perm records := by
  rw [clean_after, quarantined_after, clean_routeAll, quarantined_routeAll, List.map_map]
  have hsame : ((records.filter fun r => !rules.accepts r).map
      (Quarantined.record ∘ fun r => ⟨r, rules.failing r⟩)) =
        records.filter fun r => !rules.accepts r := List.map_id'' (fun _ => rfl) _
  rw [hsame]
  exact List.filter_append_perm rules.accepts records

end BatchOutcome

/-! ## Many batches -/

section

variable (rules : RuleSet) (time : Instant)

/-- The events of batches, in their order. -/
def eventsOf (batches : List (List Record)) : List Event :=
  batches.flatMap fun records =>
    progressEvents time cleanDataset rules (routeAll rules records).tallies

/-- The outcomes of batches after a history; a batch comes with the identifier of its entry. -/
def outcomes (history : List Event) : List (String × List Record) → List BatchOutcome
  | [] => []
  | (id, records) :: rest =>
    let o := BatchOutcome.after rules time history id records
    o :: outcomes (history ++ o.events) rest

theorem getElem?_outcomes (history : List Event) (batches : List (String × List Record))
    (k : Nat) : (outcomes rules time history batches)[k]? = batches[k]?.map fun b =>
      .after rules time (history ++ eventsOf rules time ((batches.take k).map Prod.snd)) b.1
        b.2 := by
  induction batches generalizing history k with
  | nil => rfl
  | cons b batches ih =>
    cases k with
    | zero =>
      rw [List.take_zero, List.map_nil, eventsOf, List.flatMap_nil, List.append_nil]
      rfl
    | succ k =>
      rw [outcomes, List.getElem?_cons_succ, List.getElem?_cons_succ, ih,
        BatchOutcome.events_after, List.take_succ_cons, List.map_cons, eventsOf, eventsOf,
        List.flatMap_cons, List.append_assoc]

end

end Quarantine
