import Quarantine.Proofs.Pipeline.Commits
import Quarantine.Proofs.Pipeline.OnRecord

/-!
# The life of a root

A root that was empty is opened any number of times, with any rules, source and options, and the
runner that was opened last takes steps or is handed batches.  Each of these meets fates of its
own: it succeeds, it fails, or the program ends in the middle of it.

    Move l x e y     something is done to the root, and e is what is seen of it
    Life l start h x h is what was seen until x, since the root was empty
    Life l start h x → the disk keeps some commits, and the runner knows them

A runner without rules leaves the metrics alone.  So no batch without events shows events of an
attempt that failed before it.
-/

namespace Quarantine

open Quarantine.Disk Quarantine.Job Quarantine.Json

variable {l : Layout} {cs : List Commit} {s : Surroundings} {d d' d'' : Disk}

/-! ## Parts -/

namespace Layout

/-- That the parts of the first batches are the same. -/
def Retains (l : Layout) (n : Nat) (d d' : Disk) : Prop :=
  ∀ k id, id < n → l.partFile? d' k id = l.partFile? d k id

/-- That parts are the same, or gone if they were not of the first batches. -/
def Cleared (l : Layout) (n : Nat) (d d' : Disk) : Prop :=
  ∀ k id, l.partFile? d' k id = l.partFile? d k id ∨ n ≤ id ∧ l.partFile? d' k id = none

variable {n : Nat}

theorem Cleared.retains (h : l.Cleared n d d') : l.Retains n d d' := by
  intro k id hid
  rcases h k id with he | ⟨hn, -⟩
  · exact he
  · omega

theorem Cleared.none (h : l.Cleared n d d') {k : TableKind} {id : Nat}
    (hnone : l.partFile? d k id = none) : l.partFile? d' k id = none := by
  rcases h k id with he | ⟨-, hgone⟩
  · rw [he, hnone]
  · exact hgone

theorem Cleared.trans (h : l.Cleared n d d') (h' : l.Cleared n d' d'') : l.Cleared n d d'' := by
  intro k id
  rcases h' k id with he | hgone
  · rw [he]
    exact h k id
  · exact .inr hgone

theorem cleared_of_grown (h : Grown l.OnWay d d') : l.Cleared n d d' :=
  fun k id => .inl (sameParts_of_grown h k id)

theorem Keeps.cleared (h : l.Keeps cs d)
    (hp : PartTable.Pruned (l.StaleAt (checkpointOf cs).batches d) d d') :
    l.Cleared cs.length d d' := by
  intro k id
  rcases Allows.pruned_cases h.below hp (l.placeOf (.part k id)) with he | ⟨hnone, hgone⟩
  · exact .inl (file?_congr he)
  · refine .inr ⟨?_, file?_of_none hnone⟩
    rcases hgone with ⟨k', id', node, hpl, -, hstale⟩ | ⟨k', id', hpl⟩
    · obtain ⟨-, rfl⟩ := Slot.part.inj (placeOf_inj.1 hpl)
      exact h.le_of_isStale hstale
    · exact nomatch placeOf_inj.1 hpl

theorem retains_of_drafted (h : SameBut (l.Draft n) d d') : l.Retains n d d' := by
  intro k id hid
  refine file?_congr (h.get?_eq ?_)
  rw [← place_part]
  exact not_draft_part (Nat.ne_of_lt hid)

/-- Nothing is there at the numbers after the next one. -/
theorem Keeps.no_part (h : l.Keeps cs d) {k : TableKind} {id : Nat} (hid : cs.length < id) :
    l.partFile? d k id = none := by
  cases hg : d.get? (l.placeOf (.part k id)) with
  | none => exact file?_of_none hg
  | some node =>
    obtain ⟨-, hle, -⟩ := h.permits hg
    omega

theorem Keeps.foundAt (h : l.Keeps cs d) : (checkpointOf cs).FoundAt l.checkpoint d :=
  h.storedAt.foundAt fun _ => h.lt_of_mem_batches

end Layout

namespace Runner

variable {r : Runner}

/-! ## Runners -/

/-- The runner that opening a root with some commits gives. -/
def resumed (rules : RuleSet) (source : Source) (layout : Layout) (options : Options)
    (cs : List Commit) : Runner where
  rules
  source
  layout
  options
  checkpoint := checkpointOf cs
  history := historyOf cs
  frozen := if options.frozen then some (.ofEvents (historyOf cs)) else none

/-- That a runner knows the commits of a disk, and finds nothing where it must not. -/
structure UpToDate (r : Runner) (l : Layout) (cs : List Commit) (d : Disk) : Prop where
  layout : r.layout = l
  directories : ∀ k, d.HasDirectory (l.table k).directory
  checkpoint : r.checkpoint = checkpointOf cs
  history : r.history = historyOf cs
  bare : cs.length < 0x10000000000000000 → r.rules.rules = [] →
    l.partFile? d .metrics cs.length = none

theorem UpToDate.supplied (h : r.UpToDate l cs d) (source : Source) :
    UpToDate { r with source } l cs d :=
  ⟨h.layout, h.directories, h.checkpoint, h.history, h.bare⟩

theorem UpToDate.cleared (h : r.UpToDate l cs d) (hk : KeepsDirectories d d')
    (hc : l.Cleared cs.length d d') : r.UpToDate l cs d' :=
  ⟨h.layout, fun k => (h.directories k).mono hk, h.checkpoint, h.history,
    fun h64 hrules => hc.none (h.bare h64 hrules)⟩

theorem UpToDate.next (h : r.UpToDate l cs d) : r.checkpoint.next = cs.length := by
  rw [h.checkpoint, next_checkpointOf]

theorem UpToDate.inPlace (h : r.UpToDate l cs d) (hk : l.Keeps cs d) : r.InPlace d := by
  refine ⟨fun k => h.layout ▸ h.directories k, fun c hc id hid => ?_⟩
  rw [h.layout] at hc
  rw [hc.unique hk.foundAt] at hid
  rw [h.next]
  exact contains_checkpointOf.1 hid

/-! ### Opening -/

/-- Opening a root keeps its commits, whether it succeeds or not, and a runner that is opened
knows them. -/
theorem ensures_open_keeps (hk : l.Keeps cs d) (rules : RuleSet) (source : Source)
    (options : Options) :
    Job.Ensures s (fun d' => l.Keeps cs d' ∧ l.Cleared cs.length d d')
      (fun r d' => l.Keeps cs d' ∧ l.Cleared cs.length d d' ∧
        r = resumed rules source l options cs ∧ r.UpToDate l cs d')
      (open? rules source l options) d := by
  have hgrown {d₁ : Disk} (hg : Grown l.OnWay d d₁) :
      l.Keeps cs d₁ ∧ l.Cleared cs.length d d₁ := ⟨hk.grown hg, Layout.cleared_of_grown hg⟩
  refine (Layout.ensures_ensure (Q := fun _ d₁ => (l.Keeps cs d₁ ∧ l.Cleared cs.length d d₁) ∧
    ∀ k, d₁.HasDirectory (l.table k).directory) (fun _ => hgrown)
    fun _ hg hdirs => ⟨hgrown hg, hdirs⟩).bind ?_
  rintro _ d₁ ⟨⟨hk₁, hc₁⟩, hdirs⟩
  refine (Checkpoint.ensures_load (Q := fun c d₂ => c = checkpointOf cs ∧ d₂ = d₁) hk₁.storedAt
    (fun _ => hk₁.lt_of_mem_batches) ⟨hk₁, hc₁⟩ ⟨rfl, rfl⟩).bind ?_
  rintro c d₂ ⟨rfl, rfl⟩
  have hpruned {d₃ : Disk}
      (hp : PartTable.Pruned (l.StaleAt (checkpointOf cs).batches d₂) d₂ d₃) :
      l.Keeps cs d₃ ∧ l.Cleared cs.length d d₃ := ⟨hk₁.pruned hp, hc₁.trans (hk₁.cleared hp)⟩
  refine (Layout.ensures_discardAll (Q := fun _ d₃ => (l.Keeps cs d₃ ∧ l.Cleared cs.length d d₃) ∧
    (∀ k, d₃.HasDirectory (l.table k).directory) ∧
    (cs.length < 0x10000000000000000 → l.partFile? d₃ .metrics cs.length = none)) hdirs
    (fun _ => hpruned) fun d₃ hp hgone => ⟨hpruned hp, fun k =>
      (hdirs k).mono hp.keepsDirectories, fun h64 => ?_⟩).bind ?_
  · -- a part of the next batch is of no use
    refine file?_of_none ?_
    rw [← Layout.place_part, PartTable.place_partPath]
    refine hgone .metrics _ (PartTable.isName_partName _) ?_
    rw [PartTable.isStale_partName h64, Bool.not_eq_true']
    refine Bool.eq_false_iff.2 fun hm => ?_
    exact absurd (contains_checkpointOf.1 hm) (Nat.lt_irrefl _)
  rintro _ d₃ ⟨⟨hk₃, hc₃⟩, hdirs₃, hbare⟩
  refine (hk₃.shows_history.ensures (Q := fun history d₄ => history = historyOf cs ∧ d₄ = d₃)
    ⟨hk₃, hc₃⟩ ⟨rfl, rfl⟩).bind ?_
  rintro history d₄ ⟨rfl, rfl⟩
  exact ensures_pure ⟨hk₃, hc₃, rfl, rfl, hdirs₃, rfl, rfl, fun h64 _ => hbare h64⟩

/-! ### Batches -/

/-- Running a batch that has no rows for a table leaves the parts of that table as they are. -/
theorem ensures_runBatch_unwritten {k : TableKind} {batch : InputBatch}
    (hnone : ∀ entryId time, (r.outcome entryId time batch).rows k = []) (id : Nat) :
    Job.Ensures s (fun d' => r.layout.partFile? d' k id = r.layout.partFile? d k id)
      (fun _ d' => r.layout.partFile? d' k id = r.layout.partFile? d k id) (r.runBatch batch) d := by
  refine ensures_runBatch rfl fun time entryId _ => ?_
  refine ensures_store (I := fun d' => r.layout.partFile? d' k id = r.layout.partFile? d k id) rfl
    (fun _ h => h) (fun k' d₀ d₁ d' _ h₀ hg hp => ?_) (fun k' d₀ d₁ d' hrows h₀ hg hw => ?_)
    fun d₁ h₁ _ => ?_
  · have hsame : r.layout.SameParts d₁ d' :=
      Layout.sameParts_of_partly (fun _ _ he => by cases he) hp
    rw [hsame k id, Layout.sameParts_of_grown hg k id, h₀]
  · have hne : k' ≠ k := fun he => hrows (he ▸ hnone entryId time)
    rw [Layout.partFile?_of_written hw, if_neg fun he => hne he.1.symm,
      Layout.sameParts_of_grown hg k id, h₀]
  · refine (ensures_save_sameParts _ r.layout d₁).mono (fun d' hsame => ?_) fun _ d' hsame => ?_
    · rw [hsame k id, h₁]
    · rw [hsame k id, h₁]

/-- Without rules there are no rows for the metrics. -/
theorem rows_metrics_of_no_rules (hrules : r.rules.rules = []) (entryId : String) (time : Instant)
    (batch : InputBatch) : (r.outcome entryId time batch).rows .metrics = [] := by
  have hevents : (r.commitOf entryId time batch).outcome.events = [] :=
    Commit.events_eq_nil_iff.2 hrules
  rw [outcome_commitOf] at hevents
  rw [BatchOutcome.rows, hevents]
  rfl

theorem UpToDate.bare_of_run (h : r.UpToDate l cs d) (h64 : cs.length < 0x10000000000000000)
    (hrules : r.rules.rules = []) {batch : InputBatch} {fates rest : List Fate}
    {result : Option (Except Failure (BatchReport × Runner))}
    (hrun : Action.runUnder s (r.runBatch batch).run fates d = ⟨result, rest, d'⟩) :
    l.partFile? d' .metrics cs.length = none := by
  have hmetrics := (ensures_runBatch_unwritten (s := s) (d := d)
    (fun entryId time => rows_metrics_of_no_rules hrules entryId time batch) cs.length).disk fates
  rw [hrun, h.layout, h.bare h64 hrules] at hmetrics
  exact hmetrics

/-- A run of a batch that gives no report touches drafts only. -/
theorem UpToDate.of_no_report (h : r.UpToDate l cs d) (hk : l.Keeps cs d) {batch : InputBatch}
    {fates rest : List Fate} {result : Option (Except Failure (BatchReport × Runner))}
    (hno : ∀ x, result ≠ some (.ok x))
    (hrun : Action.runUnder s (r.runBatch batch).run fates d = ⟨result, rest, d'⟩) :
    l.Keeps cs d' ∧ r.UpToDate l cs d' ∧ l.Retains cs.length d d' := by
  have hsame := (ensures_runBatch_written (s := s) (h.inPlace hk) batch (Q := fun _ _ => True)
    fun _ _ _ _ _ _ _ => trivial).safe hno hrun
  rw [h.layout, h.next] at hsame
  refine ⟨hk.drafted hsame, ⟨h.layout, fun k => (h.directories k).mono hsame.keepsDirectories,
    h.checkpoint, h.history, fun h64 hrules => h.bare_of_run h64 hrules hrun⟩,
    Layout.retains_of_drafted hsame⟩

/-- A run of a batch that gives a report commits the batch. -/
theorem UpToDate.of_report (h : r.UpToDate l cs d) (hk : l.Keeps cs d)
    (h64 : cs.length < 0x10000000000000000) {batch : InputBatch} {fates rest : List Fate}
    {report : BatchReport} {r' : Runner}
    (hrun : Action.runUnder s (r.runBatch batch).run fates d =
      ⟨some (.ok (report, r')), rest, d'⟩) :
    ∃ entryId time, report = r.report (r.outcome entryId time batch) batch ∧
      r' = r.committed (r.outcome entryId time batch) time batch ∧
      l.Keeps (cs ++ [r.commitOf entryId time batch]) d' ∧
      r'.UpToDate l (cs ++ [r.commitOf entryId time batch]) d' ∧ l.Retains cs.length d d' := by
  obtain ⟨time, entryId, d₁, rfl, rfl, hsame, hread, hw⟩ :=
    (ensures_runBatch_written (s := s) (h.inPlace hk) batch (Q := fun x d' => ∃ time entryId d₁,
      x.1 = r.report (r.outcome entryId time batch) batch ∧
      x.2 = r.committed (r.outcome entryId time batch) time batch ∧
      SameBut (r.layout.Draft r.checkpoint.next) d d₁ ∧
      (∀ k, (r.outcome entryId time batch).rows k ≠ [] →
        d₁.read ((r.layout.table k).partPath r.checkpoint.next) =
          .ok (Rows.render ((r.outcome entryId time batch).rows k)).toUTF8) ∧
      Written r.layout.checkpoint
        (r.committed (r.outcome entryId time batch) time batch).checkpoint.render.toUTF8 d₁ d')
      fun time entryId d₁ d' hsame hread hw =>
        ⟨time, entryId, d₁, rfl, rfl, hsame, hread, hw⟩).result hrun
  have hcheckpoint : (r.committed (r.outcome entryId time batch) time batch).checkpoint =
      checkpointOf (cs ++ [r.commitOf entryId time batch]) := by
    rw [checkpointOf_concat, ← h.checkpoint]
    rfl
  have hnew : (cs ++ [r.commitOf entryId time batch]).length = cs.length + 1 := by
    rw [List.length_append, List.length_singleton]
  rw [h.layout, h.next] at hsame hread
  rw [h.layout, hcheckpoint] at hw
  have hdirs₁ (k : TableKind) := (h.directories k).mono hsame.keepsDirectories
  have hsaved := Layout.sameParts_of_savedCheckpoint hw
  -- without events there are no rules, and then nothing is written to the metrics
  have hbare : (r.commitOf entryId time batch).outcome.events = [] →
      l.partFile? d' .metrics cs.length = none := by
    intro hevents
    exact h.bare_of_run h64 (Commit.events_eq_nil_iff.1 hevents) hrun
  have hkeeps : l.Keeps (cs ++ [r.commitOf entryId time batch]) d' := by
    refine (hk.drafted hsame).commit h64 hdirs₁ (fun k hrows => ?_) hbare hw
    rw [outcome_commitOf] at hrows ⊢
    exact hread k hrows
  refine ⟨entryId, time, rfl, rfl, hkeeps, ⟨h.layout,
    fun k => (hdirs₁ k).mono hw.keepsDirectories, hcheckpoint, ?_, fun _ _ => ?_⟩,
    fun k id hid => ?_⟩
  · rw [historyOf_concat, outcome_commitOf, ← h.history]
    rfl
  · rw [hnew, hsaved]
    exact (hk.drafted hsame).no_part (Nat.lt_succ_self _)
  · rw [hsaved k id]
    exact Layout.retains_of_drafted hsame k id hid

/-! ### Steps -/

/-- What a step of a runner gives for what running a batch gave. -/
def stepped (r : Runner) : Except Failure (BatchReport × Runner) →
    Except Failure (Option BatchReport) × Runner
  | .ok (report, r') => (.ok (some report), r')
  | .error e => (.error e, r)

/-- A step leaves all as it was but for the source, or it runs a batch that the source gave. -/
theorem step_cases {fates rest : List Fate}
    {result : Option (Except Failure (Option BatchReport) × Runner)}
    (h : r.step.runUnder s fates d = ⟨result, rest, d'⟩) :
    (d' = d ∧ ∀ x ∈ result, (∀ report, x.1 ≠ .ok (some report)) ∧
      ∃ source, x.2 = { r with source }) ∨
    ∃ source batch fates' ran, r.gives s fates d = some batch ∧
      Action.runUnder s (runBatch { r with source } batch).run fates' d = ⟨ran, rest, d'⟩ ∧
      result = ran.map { r with source }.stepped := by
  have hdisk := disk_next (s := s) r.source r.checkpoint fates d
  rw [step, Action.runUnder_bind] at h
  unfold gives
  generalize (r.source.next r.checkpoint).runUnder s fates d = asked at h hdisk ⊢
  obtain ⟨result₀, fates₀, d₀⟩ := asked
  obtain rfl : d₀ = d := hdisk
  rcases result₀ with _ | ⟨e | _ | batch, source⟩
  · cases h
    exact .inl ⟨rfl, fun x hx => absurd hx (Option.not_mem_none x)⟩
  · cases h
    refine .inl ⟨rfl, fun x hx => ?_⟩
    obtain rfl := Option.some.inj hx
    exact ⟨fun _ he => (by cases he), source, rfl⟩
  · cases h
    refine .inl ⟨rfl, fun x hx => ?_⟩
    obtain rfl := Option.some.inj hx
    exact ⟨fun _ he => (by cases he), source, rfl⟩
  · dsimp only at h
    rw [Action.runUnder_bind] at h
    cases hran : Action.runUnder s (runBatch { r with source } batch).run fates₀ d₀ with
    | mk ran fates₁ d₁ =>
      rw [hran] at h
      refine .inr ⟨source, batch, fates₀, ran, rfl, ?_⟩
      rcases ran with _ | e | ⟨report, r'⟩
      · cases h
        exact ⟨hran, rfl⟩
      · cases h
        exact ⟨hran, rfl⟩
      · cases h
        exact ⟨hran, rfl⟩

/-- A step that reports a batch ran the one that the source gave. -/
theorem exists_ran_of_step {fates rest : List Fate} {batch : InputBatch} {report : BatchReport}
    {r' : Runner} (hgives : r.gives s fates d = some batch)
    (h : r.step.runUnder s fates d = ⟨some (.ok (some report), r'), rest, d'⟩) :
    ∃ source fates', Action.runUnder s (runBatch { r with source } batch).run fates' d =
      ⟨some (.ok (report, r')), rest, d'⟩ := by
  rcases step_cases h with ⟨-, hidle⟩ | ⟨source, batch, fates', ran, hbatch, hran, he⟩
  · exact absurd rfl ((hidle _ rfl).1 _)
  · obtain rfl := Option.some.inj (hgives.symm.trans hbatch)
    rcases ran with _ | e | ⟨report, r'⟩
    · cases he
    · cases he
    · cases he
      exact ⟨source, fates', hran⟩

end Runner

/-! ## What is done to a root -/

/-- What is seen of what is done to a root. -/
inductive Happening where
  /-- A runner was opened; redactions are selected once, or for each batch. -/
  | opened (rules : RuleSet) (frozen : Bool)
  /-- A batch was committed. -/
  | committed (batch : InputBatch) (report : BatchReport)

/-- Something is done to a root under some fates: it is opened, or the runner that was opened
last takes a step or runs a batch that it is handed.  The numbers of batches are 64-bit numbers,
so that none is committed after the last of them. -/
inductive Move (l : Layout) (x : World) : Option Happening → World → Prop
  | opened {rules : RuleSet} {source : Source} {options : Options} {s : Surroundings}
      {fates rest : List Fate} {r : Runner} {d : Disk}
      (h : Action.runUnder s (Runner.open? rules source l options).run fates x.disk =
        ⟨some (.ok r), rest, d⟩) : Move l x (some (.opened rules options.frozen)) ⟨d, some r⟩
  /-- The runner before stays in its place. -/
  | notOpened {rules : RuleSet} {source : Source} {options : Options} {s : Surroundings}
      {fates rest : List Fate} {e : Failure} {d : Disk}
      (h : Action.runUnder s (Runner.open? rules source l options).run fates x.disk =
        ⟨some (.error e), rest, d⟩) : Move l x none ⟨d, x.runner⟩
  | endedOpening {rules : RuleSet} {source : Source} {options : Options} {s : Surroundings}
      {fates rest : List Fate} {d : Disk}
      (h : Action.runUnder s (Runner.open? rules source l options).run fates x.disk =
        ⟨none, rest, d⟩) : Move l x none ⟨d, none⟩
  | stepped {r r' : Runner} {s : Surroundings} {fates rest : List Fate} {batch : InputBatch}
      {report : BatchReport} {d : Disk} (hr : x.runner = some r)
      (h64 : r.checkpoint.next < 0x10000000000000000)
      (hgives : r.gives s fates x.disk = some batch)
      (h : r.step.runUnder s fates x.disk = ⟨some (.ok (some report), r'), rest, d⟩) :
      Move l x (some (.committed batch report)) ⟨d, some r'⟩
  /-- The step fails, or there is no batch. -/
  | notStepped {r r' : Runner} {s : Surroundings} {fates rest : List Fate}
      {result : Except Failure (Option BatchReport)} {d : Disk} (hr : x.runner = some r)
      (hno : ∀ report, result ≠ .ok (some report))
      (h : r.step.runUnder s fates x.disk = ⟨some (result, r'), rest, d⟩) :
      Move l x none ⟨d, some r'⟩
  | endedStepping {r : Runner} {s : Surroundings} {fates rest : List Fate} {d : Disk}
      (hr : x.runner = some r) (h : r.step.runUnder s fates x.disk = ⟨none, rest, d⟩) :
      Move l x none ⟨d, none⟩
  | ran {r r' : Runner} {s : Surroundings} {fates rest : List Fate} {batch : InputBatch}
      {report : BatchReport} {d : Disk} (hr : x.runner = some r)
      (h64 : r.checkpoint.next < 0x10000000000000000)
      (h : Action.runUnder s (r.runBatch batch).run fates x.disk =
        ⟨some (.ok (report, r')), rest, d⟩) :
      Move l x (some (.committed batch report)) ⟨d, some r'⟩
  | notRan {r : Runner} {s : Surroundings} {fates rest : List Fate} {batch : InputBatch}
      {e : Failure} {d : Disk} (hr : x.runner = some r)
      (h : Action.runUnder s (r.runBatch batch).run fates x.disk = ⟨some (.error e), rest, d⟩) :
      Move l x none ⟨d, some r⟩
  | endedRunning {r : Runner} {s : Surroundings} {fates rest : List Fate} {batch : InputBatch}
      {d : Disk} (hr : x.runner = some r)
      (h : Action.runUnder s (r.runBatch batch).run fates x.disk = ⟨none, rest, d⟩) :
      Move l x none ⟨d, none⟩

/-- A batch is committed by a run of the runner that is there, whatever its source. -/
theorem Move.exists_ran {x y : World} {batch : InputBatch} {report : BatchReport}
    (m : Move l x (some (.committed batch report)) y) :
    ∃ r source s fates r' rest, x.runner = some r ∧ y.runner = some r' ∧
      r.checkpoint.next < 0x10000000000000000 ∧
      Action.runUnder s (Runner.runBatch { r with source } batch).run fates x.disk =
        ⟨some (.ok (report, r')), rest, y.disk⟩ := by
  cases m with
  | @stepped r r' s fates rest _ _ d hr h64 hgives hrun =>
    obtain ⟨source, fates', hran⟩ := Runner.exists_ran_of_step hgives hrun
    exact ⟨r, source, s, fates', r', rest, hr, rfl, h64, hran⟩
  | @ran r r' s fates rest _ _ d hr h64 hrun =>
    exact ⟨r, r.source, s, fates, r', rest, hr, rfl, h64, hrun⟩

/-- What was seen since a disk was as at the start, and what has become of it. -/
inductive Life (l : Layout) (start : Disk) : List Happening → World → Prop
  | begun : Life l start [] ⟨start, none⟩
  | moved {hs : List Happening} {x y : World} {e : Option Happening} (h : Life l start hs x)
      (m : Move l x e y) : Life l start (hs ++ e.toList) y

/-- The records of the committed batches. -/
def recordsOf (hs : List Happening) : List (List Record) :=
  hs.filterMap fun
    | .opened _ _ => none
    | .committed batch _ => some batch.records

theorem recordsOf_append (hs hs' : List Happening) :
    recordsOf (hs ++ hs') = recordsOf hs ++ recordsOf hs' := List.filterMap_append

/-- That no runner is opened meanwhile. -/
def Unopened (hs : List Happening) : Prop := ∀ rules frozen, .opened rules frozen ∉ hs

theorem unopened_nil : Unopened [] := fun _ _ h => absurd h List.not_mem_nil

theorem Unopened.concat {hs : List Happening} (h : Unopened hs) (batch : InputBatch)
    (report : BatchReport) : Unopened (hs ++ [.committed batch report]) := by
  intro rules frozen hm
  rcases List.mem_append.1 hm with hm | hm
  · exact h rules frozen hm
  · cases List.mem_singleton.1 hm

/-- That a runner was opened by what was seen, after the old ones of some commits. -/
def Runner.InSession (r : Runner) (hs : List Happening) (cs : List Commit) : Prop :=
  ∃ earlier frozen session old new, hs = earlier ++ .opened r.rules frozen :: session ∧
    Unopened session ∧ cs = old ++ new ∧
    (old.map fun c => c.batch.records) = recordsOf earlier ∧
    r.frozen = if frozen then some (.ofEvents (historyOf old)) else none

/-- That commits are those of what was seen: the disk keeps them and the runner knows them. -/
structure Chronicle (l : Layout) (hs : List Happening) (cs : List Commit) (x : World) : Prop where
  keeps : l.Keeps cs x.disk
  upToDate : ∀ r ∈ x.runner, r.UpToDate l cs x.disk
  records : (cs.map fun c => c.batch.records) = recordsOf hs
  rules : ∀ c ∈ cs, ∃ frozen, .opened c.rules frozen ∈ hs
  session : ∀ r ∈ x.runner, r.InSession hs cs

section

variable {hs : List Happening} {x y : World} {r r' : Runner}

/-! ## What each of it keeps -/

theorem Chronicle.length_eq (h : Chronicle l hs cs x) : cs.length = (recordsOf hs).length := by
  rw [← h.records, List.length_map]

/-- Without a commit, and without another runner but for its source, the chronicle goes on. -/
theorem Chronicle.unseen (h : Chronicle l hs cs x) (hk : l.Keeps cs d')
    {runner : Option Runner} (hr : ∀ r' ∈ runner, r'.UpToDate l cs d' ∧
      ∃ r ∈ x.runner, ∃ source, r' = { r with source }) : Chronicle l hs cs ⟨d', runner⟩ := by
  refine ⟨hk, fun r' hr' => (hr r' hr').1, h.records, h.rules, fun r' hr' => ?_⟩
  obtain ⟨-, r, hmem, source, rfl⟩ := hr r' hr'
  exact h.session r hmem

theorem Chronicle.opened (h : Chronicle l hs cs x) (hk : l.Keeps cs d') {rules : RuleSet}
    {source : Source} {options : Options}
    (hr : (Runner.resumed rules source l options cs).UpToDate l cs d') :
    Chronicle l (hs ++ [.opened rules options.frozen]) cs
      ⟨d', some (.resumed rules source l options cs)⟩ := by
  refine ⟨hk, fun r hm => Option.some.inj hm ▸ hr, ?_, fun c hc => ?_, fun r hm => ?_⟩
  · rw [recordsOf_append, h.records]
    exact (List.append_nil _).symm
  · obtain ⟨frozen, hopened⟩ := h.rules c hc
    exact ⟨frozen, List.mem_append_left _ hopened⟩
  · obtain rfl := Option.some.inj hm
    exact ⟨hs, options.frozen, [], cs, [], rfl, unopened_nil, (List.append_nil cs).symm,
      h.records, rfl⟩

theorem Chronicle.committed (h : Chronicle l hs cs x) (hr : x.runner = some r)
    {entryId : String} {time : Instant} {batch : InputBatch} (report : BatchReport)
    (source : Source) (hk : l.Keeps (cs ++ [r.commitOf entryId time batch]) d')
    (hup : ({ r.committed (r.outcome entryId time batch) time batch with source } : Runner).UpToDate
      l (cs ++ [r.commitOf entryId time batch]) d') :
    Chronicle l (hs ++ [.committed batch report]) (cs ++ [r.commitOf entryId time batch])
      ⟨d', some { r.committed (r.outcome entryId time batch) time batch with source }⟩ := by
  obtain ⟨earlier, frozen, session, old, new, hhs, hunopened, hcs, hold, hfrozen⟩ :=
    h.session r hr
  refine ⟨hk, fun r₁ hm => Option.some.inj hm ▸ hup, ?_, fun c hc => ?_, fun r₁ hm => ?_⟩
  · rw [List.map_append, h.records, recordsOf_append]
    rfl
  · rcases List.mem_append.1 hc with hc | hc
    · obtain ⟨frozen, hopened⟩ := h.rules c hc
      exact ⟨frozen, List.mem_append_left _ hopened⟩
    · rw [List.mem_singleton.1 hc]
      refine ⟨frozen, List.mem_append_left _ ?_⟩
      rw [hhs]
      exact List.mem_append_right _ List.mem_cons_self
  · obtain rfl := Option.some.inj hm
    refine ⟨earlier, frozen, session ++ [.committed batch report], old,
      new ++ [r.commitOf entryId time batch], ?_, hunopened.concat batch report, ?_, hold, hfrozen⟩
    · rw [hhs, List.append_assoc]
      rfl
    · rw [hcs, List.append_assoc]

/-- A root that is not opened keeps its commits, and the runner before goes on knowing them. -/
theorem Chronicle.of_not_opened (h : Chronicle l hs cs x) {rules : RuleSet} {source : Source}
    {options : Options} {fates rest : List Fate} {result : Option (Except Failure Runner)}
    (hno : ∀ r, result ≠ some (.ok r))
    (hrun : Action.runUnder s (Runner.open? rules source l options).run fates x.disk =
      ⟨result, rest, d'⟩) {runner : Option Runner} (hrunner : ∀ r ∈ runner, r ∈ x.runner) :
    Chronicle l hs cs ⟨d', runner⟩ ∧ l.Retains cs.length x.disk d' := by
  obtain ⟨hk, hc⟩ :=
    (Runner.ensures_open_keeps (s := s) h.keeps rules source options).safe hno hrun
  have hdirs := Action.runUnder_keepsDirectories (s := s)
    (Runner.open? rules source l options).run fates x.disk
  rw [hrun] at hdirs
  refine ⟨h.unseen hk fun r hr => ?_, hc.retains⟩
  exact ⟨(h.upToDate r (hrunner r hr)).cleared hdirs hc, r, hrunner r hr, r.source, rfl⟩

/-- A batch that is not committed leaves the runner as it is. -/
theorem Chronicle.of_no_report (h : Chronicle l hs cs x) (hr : x.runner = some r) (source : Source)
    {batch : InputBatch} {fates rest : List Fate}
    {result : Option (Except Failure (BatchReport × Runner))} (hno : ∀ x, result ≠ some (.ok x))
    (hrun : Action.runUnder s (Runner.runBatch { r with source } batch).run fates x.disk =
      ⟨result, rest, d'⟩) {runner : Option Runner} (hrunner : ∀ r' ∈ runner, r' = { r with source }) :
    Chronicle l hs cs ⟨d', runner⟩ ∧ l.Retains cs.length x.disk d' := by
  obtain ⟨hk, hup, hparts⟩ := ((h.upToDate r hr).supplied source).of_no_report h.keeps hno hrun
  refine ⟨h.unseen hk fun r' hr' => ?_, hparts⟩
  obtain rfl := hrunner r' hr'
  exact ⟨hup, r, hr, source, rfl⟩

/-- A batch that is reported is committed. -/
theorem Chronicle.of_report (h : Chronicle l hs cs x) (hr : x.runner = some r) (source : Source)
    (h64 : r.checkpoint.next < 0x10000000000000000) {batch : InputBatch} {fates rest : List Fate}
    {report : BatchReport}
    (hrun : Action.runUnder s (Runner.runBatch { r with source } batch).run fates x.disk =
      ⟨some (.ok (report, r')), rest, d'⟩) :
    ∃ entryId time, Chronicle l (hs ++ [.committed batch report])
      (cs ++ [r.commitOf entryId time batch]) ⟨d', some r'⟩ ∧ l.Retains cs.length x.disk d' := by
  have hup := (h.upToDate r hr).supplied source
  rw [(h.upToDate r hr).next] at h64
  obtain ⟨entryId, time, -, rfl, hk, hup', hparts⟩ := hup.of_report h.keeps h64 hrun
  exact ⟨entryId, time, h.committed hr report source hk hup', hparts⟩

/-- A step that reports no batch leaves the runner as it is but for its source. -/
theorem Chronicle.of_idle_step (h : Chronicle l hs cs x) (hr : x.runner = some r)
    {fates rest : List Fate} {result : Option (Except Failure (Option BatchReport) × Runner)}
    (hno : ∀ x ∈ result, ∀ report, x.1 ≠ .ok (some report))
    (hrun : r.step.runUnder s fates x.disk = ⟨result, rest, d'⟩) :
    Chronicle l hs cs ⟨d', result.map Prod.snd⟩ ∧ l.Retains cs.length x.disk d' := by
  rcases Runner.step_cases hrun with ⟨rfl, hidle⟩ | ⟨source, batch, fates', ran, -, hran, rfl⟩
  · refine ⟨h.unseen h.keeps fun r' hr' => ?_, fun _ _ _ => rfl⟩
    obtain ⟨y, hy, rfl⟩ := Option.map_eq_some_iff.1 hr'
    obtain ⟨-, source, hsource⟩ := hidle y hy
    rw [hsource]
    exact ⟨(h.upToDate r hr).supplied source, r, hr, source, rfl⟩
  · refine h.of_no_report hr source (fun y hy => ?_) hran fun r' hr' => ?_
    · rw [hy] at hno
      exact hno _ rfl y.1 rfl
    · rcases ran with _ | e | y
      · cases hr'
      · exact (Option.some.inj hr').symm
      · exact absurd rfl (hno _ rfl y.1)

/-- Nothing that is done to a root takes a commit back or changes its parts. -/
theorem Chronicle.move (h : Chronicle l hs cs x) {e : Option Happening} (m : Move l x e y) :
    ∃ new, Chronicle l (hs ++ e.toList) (cs ++ new) y ∧ l.Retains cs.length x.disk y.disk := by
  have hunseen {y : World} (hy : Chronicle l hs cs y ∧ l.Retains cs.length x.disk y.disk) :
      ∃ new, Chronicle l (hs ++ []) (cs ++ new) y ∧ l.Retains cs.length x.disk y.disk := by
    refine ⟨[], ?_, hy.2⟩
    rw [List.append_nil, List.append_nil]
    exact hy.1
  have hnobody {P : Runner → Prop} : ∀ r ∈ (none : Option Runner), P r :=
    fun r hr => absurd hr (Option.not_mem_none r)
  cases m with
  | @opened rules source options s fates rest r d hrun =>
    obtain ⟨hk, hc, rfl, hr⟩ := (Runner.ensures_open_keeps (s := s) h.keeps rules source
      options).result hrun
    refine ⟨[], ?_, hc.retains⟩
    rw [List.append_nil]
    exact h.opened hk hr
  | notOpened hrun =>
    exact hunseen (h.of_not_opened (fun _ he => by cases he) hrun fun _ hr => hr)
  | endedOpening hrun => exact hunseen (h.of_not_opened (fun _ he => by cases he) hrun hnobody)
  | stepped hr h64 hgives hrun =>
    obtain ⟨source, fates', hran⟩ := Runner.exists_ran_of_step hgives hrun
    obtain ⟨entryId, time, hy⟩ := h.of_report hr source h64 hran
    exact ⟨_, hy⟩
  | notStepped hr hno hrun =>
    exact hunseen (h.of_idle_step hr (fun _ hx => Option.some.inj hx ▸ hno) hrun)
  | endedStepping hr hrun =>
    exact hunseen (h.of_idle_step hr (fun y hy => absurd hy (Option.not_mem_none y)) hrun)
  | ran hr h64 hrun =>
    obtain ⟨entryId, time, hy⟩ := h.of_report hr _ h64 hrun
    exact ⟨_, hy⟩
  | notRan hr hrun =>
    refine hunseen (h.of_no_report hr _ (fun _ he => by cases he) hrun fun r' hr' => ?_)
    exact (Option.some.inj hr').symm
  | endedRunning hr hrun =>
    exact hunseen (h.of_no_report hr _ (fun _ he => by cases he) hrun hnobody)

theorem chronicle_begun {start : Disk} (hempty : EmptyRoot start l.root) :
    Chronicle l [] [] ⟨start, none⟩ := by
  refine ⟨Layout.keeps_of_empty hempty, fun r hr => ?_, rfl, fun c hc => ?_, fun r hr => ?_⟩
  · exact absurd hr (Option.not_mem_none r)
  · exact absurd hc List.not_mem_nil
  · exact absurd hr (Option.not_mem_none r)

/-- Since it was empty, a root has kept commits, and a runner that is there knows them. -/
theorem Life.exists_chronicle {start : Disk} (hempty : EmptyRoot start l.root)
    (h : Life l start hs x) : ∃ cs, Chronicle l hs cs x := by
  induction h with
  | begun => exact ⟨[], chronicle_begun hempty⟩
  | moved h m ih =>
    obtain ⟨cs, hcs⟩ := ih
    obtain ⟨new, hnew, -⟩ := hcs.move m
    exact ⟨cs ++ new, hnew⟩

/-- The next batch of a runner has the number of those that were committed. -/
theorem Life.next_eq {start : Disk} (hempty : EmptyRoot start l.root) (h : Life l start hs x)
    (hr : x.runner = some r) : r.checkpoint.next = (recordsOf hs).length := by
  obtain ⟨cs, hcs⟩ := h.exists_chronicle hempty
  rw [(hcs.upToDate r hr).next, hcs.length_eq]

/-- A committed batch has the number of those that were committed before it. -/
theorem Life.batch_eq {start : Disk} (hempty : EmptyRoot start l.root) (h : Life l start hs x)
    {before after : List Happening} {batch : InputBatch} {report : BatchReport}
    (hsplit : hs = before ++ .committed batch report :: after) :
    report.batch = (recordsOf before).length := by
  induction h generalizing after with
  | begun => cases (List.append_eq_nil_iff.1 hsplit.symm).2
  | @moved hs x y e h m ih =>
    cases e with
    | none =>
      rw [Option.toList_none, List.append_nil] at hsplit
      exact ih hsplit
    | some e =>
      rcases concat_eq_append_cons hsplit with ⟨rfl, rfl, -⟩ | ⟨after', -, rfl⟩
      · obtain ⟨r, source, s, fates, r', rest, hr, -, -, hrun⟩ := m.exists_ran
        obtain ⟨entryId, time, rfl, -⟩ := Runner.exists_outcome hrun
        show r.checkpoint.next = _
        exact h.next_eq hempty hr
      · exact ih rfl

end

end Quarantine
