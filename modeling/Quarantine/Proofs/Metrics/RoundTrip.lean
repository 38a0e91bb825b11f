import Quarantine.Metrics.Entry
import Quarantine.Proofs.Instant.RoundTrip
import Quarantine.Proofs.Json.Merged

/-!
# Events and progress entries read back

    Event.parse? (render e)              = some e        (counts below 2⁶⁴)
    Entry.parse? (render (progress …))   = some (progress …)
    aggregate [progress id t d rules ts] = progressEvents t d rules ts
    aggregate (xs ++ ys)                 = aggregate xs ++ aggregate ys

The identifier of an entry has no part in its events.
-/

namespace Quarantine

open Quarantine.Json

/-! ## Counts -/

/-- A count as it is kept in JSON. -/
def keptCount (n : Nat) : Nat := if n < 0x10000000000000000 then n else 0xFFFFFFFFFFFFFFFF

theorem keptCount_lt (n : Nat) : keptCount n < 0x10000000000000000 := by
  unfold keptCount
  split <;> omega

theorem keptCount_of_lt {n : Nat} (h : n < 0x10000000000000000) : keptCount n = n := if_pos h

theorem natural?_ofNat (n : Nat) : natural? (ofNat n) = some (keptCount n) := by
  unfold ofNat keptCount
  split <;> rfl

/-! ## Events -/

namespace Event

theorem fits_toValue (e : Event) : e.toValue.fits maxDepth = true := rfl

/-- The fields of a written event. -/
def fields (e : Event) : Fields :=
  [("timestamp", .string e.timestamp.render), ("step", .string e.step),
    ("rule_name", .string e.rule), ("passed", ofNat e.passed), ("failed", ofNat e.failed)]

/-- A written event is read as that event. -/
theorem parse?_render {e : Event} (hp : e.passed < 0x10000000000000000)
    (hf : e.failed < 0x10000000000000000) : parse? e.toValue.render = some e := by
  have hnames : fieldNames = e.fields.names := rfl
  have hobject : e.toValue = .object e.fields := rfl
  have hread := readStructure?_render (hobject ▸ fits_toValue e)
  have hparts := parts?_object e.fields (hnames ▸ by decide)
  rw [parse?, hobject, hnames, hread, Option.bind_some, ofValue?, hnames, hparts]
  simp only [fields, List.map_cons, List.map_nil, natural?_ofNat, keptCount_of_lt hp,
    keptCount_of_lt hf, string?, Option.bind_eq_bind, Option.bind_some, Option.pure_def,
    Instant.parse?_render]

end Event

/-! ## Progress entries -/

namespace Entry

/-- The fields of a written entry. -/
def fields (e : Entry) : Fields :=
  [("id", .string e.id), ("timestamp", .string e.timestamp.render),
    ("event_type", .string e.type), ("details", e.details)]

/-- A written entry is read as that entry, if its details are values that reading keeps. -/
theorem parse?_render {e : Entry} (hfits : e.toValue.fits maxDepth = true)
    (hmerged : e.details.merged = e.details) : parse? e.toValue.render = some e := by
  have hnames : fieldNames = e.fields.names := rfl
  have hobject : e.toValue = .object e.fields := rfl
  have hread := readStructure?_render (hobject ▸ hfits)
  have hparts := parts?_object e.fields (hnames ▸ by decide)
  rw [parse?, hobject, hnames, hread, Option.bind_some, ofValue?, hnames, hparts]
  simp only [fields, List.map_cons, List.map_nil, string?, Option.bind_eq_bind, Option.bind_some,
    Option.pure_def, Instant.parse?_render, Option.getD_some, hmerged]

theorem fits_expectation (dataset name : String) (t : Tally) {depth : Nat} :
    (expectation dataset name t).fits (depth + 1) = true := by
  unfold expectation
  rw [Value.fits, fitsFields_iff]
  intro f hf
  simp only [List.mem_cons, List.not_mem_nil, or_false] at hf
  rcases hf with rfl | rfl | rfl | rfl <;> rfl

theorem merged_expectation (dataset name : String) (t : Tally) :
    (expectation dataset name t).merged = expectation dataset name t := by
  unfold expectation
  refine (Value.merged_object_eq_iff ?_).2 ?_
  · show ["name", "dataset", "passed_records", "failed_records"].Nodup
    decide
  · intro f hf
    simp only [List.mem_cons, List.not_mem_nil, or_false] at hf
    rcases hf with rfl | rfl | rfl | rfl <;> rfl

section

variable (id : String) (time : Instant) (dataset : String) (rules : RuleSet)
variable (tallies : List Tally)

theorem mem_expectations {dataset : String} {rules : RuleSet} {tallies : List Tally} {v : Value}
    (hv : v ∈ List.zipWith (expectation dataset) rules.names tallies) :
    ∃ name t, v = expectation dataset name t := by
  rw [← List.map_uncurry_zip_eq_zipWith] at hv
  obtain ⟨⟨name, t⟩, -, rfl⟩ := List.mem_map.1 hv
  exact ⟨name, t, rfl⟩

theorem fits_progress : (progress id time dataset rules tallies).toValue.fits maxDepth = true := by
  have hitems : fitsItems 122 (List.zipWith (expectation dataset) rules.names tallies) = true := by
    apply fitsItems_iff.2
    intro v hv
    obtain ⟨name, t, rfl⟩ := mem_expectations hv
    exact fits_expectation dataset name t
  have hdetails : (progress id time dataset rules tallies).details.fits 126 = true := by
    simp only [progress, Value.fits, fitsFields, hitems, Bool.and_self]
  show fitsFields 126 (progress id time dataset rules tallies).fields = true
  simp only [fields, fitsFields, hdetails, Bool.and_true]
  rfl

theorem merged_details_progress : (progress id time dataset rules tallies).details.merged =
    (progress id time dataset rules tallies).details := by
  have hitems : (List.zipWith (expectation dataset) rules.names tallies).map Value.merged =
      List.zipWith (expectation dataset) rules.names tallies := by
    apply (List.map_congr_left _).trans (List.map_id _)
    intro v hv
    obtain ⟨name, t, rfl⟩ := mem_expectations hv
    exact merged_expectation dataset name t
  simp only [progress, Value.merged, mergedFields, mergedItems_eq_map, hitems, Fields.put]
  rfl

/-- The entry of a batch is read as it was written. -/
theorem parse?_render_progress : parse? (progress id time dataset rules tallies).toValue.render =
    some (progress id time dataset rules tallies) :=
  parse?_render (fits_progress ..) (merged_details_progress ..)

end

end Entry

/-- The events of the tallies of a batch. -/
def progressEvents (time : Instant) (dataset : String) (rules : RuleSet) (tallies : List Tally) :
    List Event :=
  List.zipWith (fun name t => ⟨time, dataset, name, keptCount t.passed, keptCount t.failed⟩)
    rules.names tallies

namespace Entry

theorem event_expectation (e : Entry) (dataset name : String) (t : Tally) :
    e.event (expectation dataset name t) =
      .ok ⟨e.timestamp, dataset, name, keptCount t.passed, keptCount t.failed⟩ := by
  have hfields : ((expectation dataset name t).field? "dataset").bind string? = some dataset ∧
      ((expectation dataset name t).field? "name").bind string? = some name ∧
      ((expectation dataset name t).field? "passed_records").bind natural? =
        some (keptCount t.passed) ∧
      ((expectation dataset name t).field? "failed_records").bind natural? =
        some (keptCount t.failed) :=
    ⟨rfl, rfl, natural?_ofNat t.passed, natural?_ofNat t.failed⟩
  obtain ⟨hd, hn, hp, hf⟩ := hfields
  simp only [event, hd, hn, hp, hf]
  rfl

theorem events_progress (id : String) (time : Instant) (dataset : String) (rules : RuleSet)
    (tallies : List Tally) : (progress id time dataset rules tallies).events =
      .ok (progressEvents time dataset rules tallies) := by
  generalize he : progress id time dataset rules tallies = e
  have htime : e.timestamp = time := by rw [← he]; rfl
  have hmap (names : List String) (ts : List Tally) :
      (List.zipWith (expectation dataset) names ts).mapM e.event =
        .ok (List.zipWith (fun name t =>
          (⟨time, dataset, name, keptCount t.passed, keptCount t.failed⟩ : Event)) names ts) := by
    induction names generalizing ts with
    | nil => rfl
    | cons name names ih =>
      cases ts with
      | nil => rfl
      | cons t ts =>
        rw [List.zipWith_cons_cons, List.zipWith_cons_cons, List.mapM_cons, event_expectation, ih,
          htime]
        rfl
  have hstart : e.events = (List.zipWith (expectation dataset) rules.names tallies).mapM e.event := by
    rw [← he]
    rfl
  rw [hstart, hmap, progressEvents]

end Entry

theorem aggregate_progress (id : String) (time : Instant) (dataset : String) (rules : RuleSet)
    (tallies : List Tally) : aggregate [Entry.progress id time dataset rules tallies] =
      progressEvents time dataset rules tallies := by
  have hkept : [Entry.progress id time dataset rules tallies].filter Entry.isProgress =
      [Entry.progress id time dataset rules tallies] := rfl
  rw [aggregate, unpacked, hkept, List.map_singleton, Entry.events_progress, List.flatMap_singleton]

/-- Logs one after the other give their events one after the other. -/
theorem aggregate_append (xs ys : List Entry) :
    aggregate (xs ++ ys) = aggregate xs ++ aggregate ys := by
  unfold aggregate unpacked
  rw [List.filter_append, List.map_append, List.flatMap_append]

theorem counts_lt_of_mem_progressEvents {time : Instant} {dataset : String} {rules : RuleSet}
    {tallies : List Tally} {e : Event} (h : e ∈ progressEvents time dataset rules tallies) :
    e.passed < 0x10000000000000000 ∧ e.failed < 0x10000000000000000 := by
  unfold progressEvents at h
  rw [← List.map_uncurry_zip_eq_zipWith] at h
  obtain ⟨p, -, rfl⟩ := List.mem_map.1 h
  exact ⟨keptCount_lt _, keptCount_lt _⟩

end Quarantine
