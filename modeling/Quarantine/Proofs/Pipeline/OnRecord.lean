import Quarantine.Proofs.Pipeline.FailedStep

/-!
# Failures stay on record

A runner selects redactions by the failures in its history.  Whatever it was opened on, each of
them is in the metrics of a committed batch, so that it is found by whoever reads the root after
the runner.

    name failed in the history → name failed in a part of the metrics, and its batch is committed

The numbers of batches are those that a checkpoint keeps, below 2⁶⁴.
-/

namespace Quarantine

open Quarantine.Disk Quarantine.Job Quarantine.Json

variable {s : Surroundings} {d d' : Disk}

/-! ## Records -/

/-- That the metrics on a disk have a failure of a rule in a batch of a checkpoint. -/
def Layout.Records (l : Layout) (c : Checkpoint) (d : Disk) (name : String) : Prop :=
  ∃ id events, id < 0x10000000000000000 ∧ c.batches.contains id = true ∧
    l.metrics.rowsIn Event.parse? d id = .ok events ∧
    (FailedRules.ofEvents events).contains name = true

/-- A failure on record is among the events that are read. -/
theorem Layout.Records.contains {l : Layout} {c c' : Checkpoint} {name : String}
    (h : l.Records c d name) (hdir : d.HasDirectory l.metrics.directory)
    (hbatches : ∀ id, id < 0x10000000000000000 → c.batches.contains id = true →
      c'.batches.contains id = true)
    {history : List Event} (hshows : l.metrics.Shows Event.parse? c'.batches d history) :
    (FailedRules.ofEvents history).contains name = true := by
  obtain ⟨id, events, h64, hid, hevents, hfailed⟩ := h
  obtain ⟨e, he, hf, hname⟩ := FailedRules.contains_ofEvents.1 hfailed
  exact FailedRules.contains_ofEvents.2
    ⟨e, hshows.mem hdir (hbatches id h64 hid) h64 hevents he, hf, hname⟩

namespace Runner

variable {r r' : Runner}

/-! ## Runners and their records -/

/-- That the failures in the history of a runner are on record, and it selects by no others. -/
structure OnRecord (r : Runner) (d : Disk) : Prop where
  inPlace : r.InPlace d
  history : r.checkpoint.next ≤ 0x10000000000000000 → ∀ name,
    (FailedRules.ofEvents r.history).contains name = true →
      r.layout.Records r.checkpoint d name
  frozen : ∀ failed ∈ r.frozen, ∀ name, failed.contains name = true →
    (FailedRules.ofEvents r.history).contains name = true

/-- That the checkpoint file has the batches of a runner. -/
def Saved (r : Runner) (d : Disk) : Prop :=
  ∀ c : Checkpoint, c.FoundAt r.layout.checkpoint d → ∀ id, id < 0x10000000000000000 →
    r.checkpoint.batches.contains id = true → c.batches.contains id = true

theorem OnRecord.supplied (h : r.OnRecord d) (source : Source) :
    OnRecord { r with source } d :=
  ⟨⟨h.inPlace.directories, h.inPlace.behind⟩, h.history, h.frozen⟩

/-! ## Batches -/

theorem events_outcome (entryId : String) (time : Instant) (batch : InputBatch) :
    (r.outcome entryId time batch).events = progressEvents time cleanDataset r.rules
      (routeParallel r.rules r.options.partitions batch.records).tallies := by
  rw [outcome, BatchOutcome.of]
  exact aggregate_progress ..

/-- What is selected for a batch has failed in the history that ends with the batch. -/
theorem OnRecord.contains_of_mem_names (h : r.OnRecord d) {entryId : String} {time : Instant}
    {batch : InputBatch} {name : String}
    (hname : name ∈ (r.outcome entryId time batch).plan.names) :
    (FailedRules.ofEvents
      (r.history ++ (r.outcome entryId time batch).events)).contains name = true := by
  have hplan : (r.outcome entryId time batch).plan =
      Plan.select (r.failedWith (r.outcome entryId time batch).events) r.rules := rfl
  rw [hplan, Plan.mem_names_select] at hname
  cases hfrozen : r.frozen with
  | none =>
    rw [failedWith, hfrozen, Option.getD_none] at hname
    exact hname.1
  | some failed =>
    rw [failedWith, hfrozen, Option.getD_some] at hname
    exact FailedRules.contains_ofEvents_append.2 (.inl (h.frozen failed hfrozen name hname.1))

/-- The rows of a part stay as long as its file does. -/
theorem rowsIn_metrics_of_read {id : Nat} {events : List Event}
    (h : r.layout.metrics.rowsIn Event.parse? d id = .ok events)
    (hread : ∀ content, d.read (r.layout.metrics.partPath id) = .ok content →
      d'.read (r.layout.metrics.partPath id) = .ok content) :
    r.layout.metrics.rowsIn Event.parse? d' id = .ok events := by
  rw [PartTable.rowsIn] at h ⊢
  cases hr : d.read (r.layout.metrics.partPath id) with
  | error e =>
    rw [hr] at h
    cases h
  | ok content =>
    rw [hr] at h
    rw [hread content hr]
    exact h

theorem OnRecord.committed (h : r.OnRecord d) {entryId : String} {time : Instant}
    {batch : InputBatch} {d₁ : Disk}
    (hsame : SameBut (r.layout.Draft r.checkpoint.next) d d₁)
    (hread : ∀ k, (r.outcome entryId time batch).rows k ≠ [] →
      d₁.read ((r.layout.table k).partPath r.checkpoint.next) =
        .ok (Rows.render ((r.outcome entryId time batch).rows k)).toUTF8)
    (hw : Written r.layout.checkpoint
      (r.committed (r.outcome entryId time batch) time batch).checkpoint.render.toUTF8 d₁ d') :
    (r.committed (r.outcome entryId time batch) time batch).OnRecord d' ∧
      (r.committed (r.outcome entryId time batch) time batch).Saved d' := by
  have hnext : (r.committed (r.outcome entryId time batch) time batch).checkpoint.next =
      r.checkpoint.next + 1 := Checkpoint.next_commit ..
  have hcontains (id : Nat) : (r.committed (r.outcome entryId time batch) time
      batch).checkpoint.batches.contains id = true ↔
        id = r.checkpoint.next ∨ r.checkpoint.batches.contains id = true :=
    Ascending.contains_insert ..
  -- writing the checkpoint leaves the parts alone
  have hpart {id : Nat} {content : ByteArray}
      (h₁ : d₁.read (r.layout.metrics.partPath id) = .ok content) :
      d'.read (r.layout.metrics.partPath id) = .ok content := by
    have hbut : SameBut (fun pl => pl = r.layout.checkpoint.place ∨
        pl = r.layout.checkpoint.temporary.place) d₁ d' := hw.sameBut (.inl rfl) (.inr rfl)
    refine hbut.read h₁ ?_
    rw [show r.layout.metrics = r.layout.table .metrics from rfl, Layout.place_part,
      r.layout.place_checkpoint, r.layout.place_unfinishedCheckpoint]
    rintro (he | he)
    · exact nomatch Layout.placeOf_inj.1 he
    · exact nomatch Layout.placeOf_inj.1 he
  refine ⟨⟨h.inPlace.committed hsame hw, fun h64 name hname => ?_, fun failed hf name hname => ?_⟩,
    fun c hc id h64 hid => ?_⟩
  · rw [hnext] at h64
    rcases FailedRules.contains_ofEvents_append.1 hname with hname | hname
    · obtain ⟨id, events, hid64, hid, hevents, hfailed⟩ := h.history (by omega) name hname
      have hne : id ≠ r.checkpoint.next := Nat.ne_of_lt (Checkpoint.lt_next hid)
      exact ⟨id, events, hid64, (hcontains id).2 (.inr hid),
        rowsIn_metrics_of_read hevents fun content hc => hpart
          (hsame.read hc (Layout.not_draft_part (k := .metrics) hne)), hfailed⟩
    · refine ⟨r.checkpoint.next, _, by omega, (hcontains _).2 (.inl rfl), ?_, hname⟩
      have hrows : (r.outcome entryId time batch).rows .metrics ≠ [] := by
        obtain ⟨e, he, -⟩ := FailedRules.contains_ofEvents.1 hname
        exact fun hnil => List.not_mem_nil (List.map_eq_nil_iff.1 hnil ▸ he)
      show r.layout.metrics.rowsIn Event.parse? d' r.checkpoint.next = _
      rw [PartTable.rowsIn, hpart (hread .metrics hrows), BatchOutcome.rows, events_outcome]
      exact BatchOutcome.ofBytes_progressEvents ..
  · exact FailedRules.contains_ofEvents_append.2 (.inl (h.frozen failed hf name hname))
  · exact (Checkpoint.contains_of_parse? (foundAt_committed hw hc)).2
      ⟨id, hid, keptCount_of_lt h64⟩

/-! ## Steps and runs -/

/-- What runs keep: the runner goes on in its root with a longer history, its failures are on
record, and the reports name rules among them. -/
structure Kept (r : Runner) (batches : List BatchReport) (r' : Runner) (d' : Disk) : Prop where
  layout : r'.layout = r.layout
  onRecord : r'.OnRecord d'
  saved : batches ≠ [] → r'.Saved d'
  selected : ∀ report ∈ batches, ∀ name ∈ report.selected,
    (FailedRules.ofEvents r'.history).contains name = true

theorem Kept.refl (h : r.OnRecord d) : r.Kept [] r d :=
  ⟨rfl, h, fun hne => absurd rfl hne, fun _ hm => absurd hm List.not_mem_nil⟩

theorem ensures_runBatch_kept {r₀ : Runner} {batches : List BatchReport}
    (h : r₀.Kept batches r d) (batch : InputBatch) : Job.Ensures s (fun _ => True)
      (fun x d' => r₀.Kept (batches ++ [x.1]) x.2 d') (r.runBatch batch) d := by
  refine (ensures_runBatch_written (Q := fun x d' => r₀.Kept (batches ++ [x.1]) x.2 d')
    h.onRecord.inPlace batch fun time entryId d₁ d' hsame hread hw => ?_).mono
      (fun _ _ => trivial) fun _ _ h => h
  obtain ⟨honRecord, hsaved⟩ := h.onRecord.committed hsame hread hw
  refine ⟨h.layout, honRecord, fun _ => hsaved, fun report hm name hname => ?_⟩
  rcases List.mem_append.1 hm with hm | hm
  · exact FailedRules.contains_ofEvents_append.2 (.inl (h.selected report hm name hname))
  · rw [List.mem_singleton.1 hm] at hname
    exact h.onRecord.contains_of_mem_names hname

/-- After a step that does not fail, what was kept is kept with its report. -/
theorem ensures_step_kept {r₀ : Runner} {batches : List BatchReport} (h : r₀.Kept batches r d) :
    Action.Ensures s (fun _ => True) (fun x d' => ∀ report?, x.1 = .ok report? →
      r₀.Kept (batches ++ report?.toList) x.2 d') r.step d := by
  have hsupplied (src : Source) : r₀.Kept batches { r with source := src } d :=
    ⟨h.layout, h.onRecord.supplied src, h.saved, h.selected⟩
  refine ensures_step trivial (fun e src _ => fun _ he => by cases he) (fun src _ => ?_)
    fun batch src _ => ⟨fun _ => True, fun d' _ => ⟨trivial, fun e _ he => by cases he⟩, ?_⟩
  · rintro report? he
    obtain rfl := Except.ok.inj he
    rw [Option.toList_none, List.append_nil]
    exact hsupplied src
  · refine (ensures_runBatch_kept (hsupplied src) batch).mono (fun _ h => h) ?_
    rintro x d' hx report? he
    obtain rfl := Except.ok.inj he
    exact hx

theorem ensures_runUpTo_kept {r₀ : Runner} {batches : List BatchReport} (fuel : Nat)
    (h : r₀.Kept batches r d) : Action.Ensures s (fun _ => True) (fun x d' =>
      ∀ summary, x.1 = .ok summary → r₀.Kept summary.batches x.2 d')
        (runUpTo batches fuel r) d := by
  induction fuel generalizing batches r d with
  | zero =>
    refine Action.ensures_pure fun summary he => ?_
    obtain rfl := Except.ok.inj he
    exact h
  | succ fuel ih =>
    refine (ensures_step_kept h).bind ?_
    rintro ⟨result, r₁⟩ d₁ hx
    rcases result with e | _ | report
    · exact Action.ensures_pure fun _ he => by cases he
    · refine Action.ensures_pure fun summary he => ?_
      obtain rfl := Except.ok.inj he
      have hx := hx none rfl
      rw [Option.toList_none, List.append_nil] at hx
      exact hx
    · exact ih (hx (some report) rfl)

/-- The failures that a run selects by are on record where it ends. -/
theorem ensures_run_kept (h : r.OnRecord d) : Action.Ensures s (fun _ => True) (fun x d' =>
    ∀ summary, x.1 = .ok summary → r.Kept summary.batches x.2 d') r.run d := by
  refine (ensures_step_kept (.refl h)).bind ?_
  rintro ⟨result, r₁⟩ d₁ hx
  rcases result with e | _ | report
  · exact Action.ensures_pure fun _ he => by cases he
  · refine Action.ensures_pure fun summary he => ?_
    obtain rfl := Except.ok.inj he
    exact hx none rfl
  · exact ensures_runUpTo_kept _ (hx (some report) rfl)

/-- The failures that a runner is opened with are on record. -/
theorem ensures_open_onRecord (rules : RuleSet) (source : Source) (layout : Layout)
    (options : Options) (d : Disk) : Job.Ensures s (fun _ => True)
      (fun r d' => r.layout = layout ∧ r.OnRecord d') (open? rules source layout options) d := by
  refine ensures_open fun c history d₁ d' hdirs hc hpruned hshows =>
    ⟨rfl, .of_pruned hdirs hc hpruned, fun h64 name hname => ?_, fun failed hf name hname => ?_⟩
  · obtain ⟨e, he, hfails, rfl⟩ := FailedRules.contains_ofEvents.1 hname
    obtain ⟨id, events, hid, hevents, he⟩ := hshows.exists_part he
    exact ⟨id, events, Nat.lt_of_lt_of_le (Checkpoint.lt_next hid) h64, hid, hevents,
      FailedRules.contains_ofEvents.2 ⟨e, he, hfails, rfl⟩⟩
  · cases hfrozen : options.frozen with
    | false =>
      rw [hfrozen] at hf
      cases hf
    | true =>
      rw [hfrozen] at hf
      obtain rfl := Option.some.inj hf
      exact hname

end Runner
end Quarantine
