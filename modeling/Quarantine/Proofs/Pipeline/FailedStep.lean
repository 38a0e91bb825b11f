import Quarantine.Proofs.Pipeline.Coverage
import Quarantine.Proofs.Storage.View

/-!
# Steps that fail

A step writes under the number of the batch that it runs, which no committed batch has, and
beside the checkpoint.  Until the checkpoint is in its place, nothing that it did can be read.

    failed step   the runner but for its source, the checkpoint file and what is read of every
                  table are as before

The runner may have been opened on any disk and have taken any steps, and between them files may
have changed: what counts is that the directories of the tables are there and that the numbers
in the checkpoint file are below that of the next batch.
-/

namespace Quarantine

open Quarantine.Disk Quarantine.Job Quarantine.Json

variable {s : Surroundings} {d d' : Disk}

/-! ## Where a batch is written -/

namespace Layout

variable {l : Layout} {n : Nat}

/-- The places that a batch is written to before it is committed. -/
inductive Draft (l : Layout) (n : Nat) : Place → Prop
  | unfinished (k : TableKind) : Draft l n (l.placeOf (.unfinished k n))
  | part (k : TableKind) : Draft l n (l.placeOf (.part k n))
  | checkpoint : Draft l n (l.placeOf .unfinishedCheckpoint)

theorem not_draft_checkpoint : ¬ l.Draft n l.checkpoint.place := by
  rw [place_checkpoint]
  intro h
  generalize hpl : l.placeOf .checkpoint = pl at h
  cases h with
  | unfinished k => exact nomatch placeOf_inj.1 hpl
  | part k => exact nomatch placeOf_inj.1 hpl
  | checkpoint => exact nomatch placeOf_inj.1 hpl

theorem not_draft_part {k : TableKind} {id : Nat} (h : id ≠ n) :
    ¬ l.Draft n ((l.table k).partPath id).place := by
  rw [place_part]
  intro hd
  generalize hpl : l.placeOf (.part k id) = pl at hd
  cases hd with
  | unfinished k' => exact nomatch placeOf_inj.1 hpl
  | part k' => exact h (Slot.part.inj (placeOf_inj.1 hpl)).2
  | checkpoint => exact nomatch placeOf_inj.1 hpl

/-- What is on the way to tables that are there is not made anew. -/
theorem sameBut_of_grown {at_ : Place → Prop}
    (hdirs : ∀ k, d.HasDirectory (l.table k).directory) (h : Grown l.OnWay d d') :
    SameBut at_ d d' :=
  h.sameBut fun _ ⟨k, hway⟩ => (hdirs k).onWay hway

theorem walk_root (h : d.HasDirectory l.clean.directory) :
    d.walk [] l.root.names = .ok l.root.place ∧ d.get? l.root.place = some .directory :=
  h.parent (by decide)

theorem find_checkpoint (hdirs : ∀ k, d.HasDirectory (l.table k).directory)
    (h : SameBut (l.Draft n) d d') : d'.find l.checkpoint = d.find l.checkpoint := by
  obtain ⟨hwalk, hdir⟩ := walk_root (hdirs .clean)
  exact (h.read_eq (by decide) hwalk hdir not_draft_checkpoint).2

end Layout

theorem Checkpoint.FoundAt.of_find {c : Checkpoint} {path : Path} (h : c.FoundAt path d)
    (hfind : d'.find path = d.find path) : c.FoundAt path d' := by
  have hread : d'.read path = d.read path := by
    unfold Disk.read
    rw [hfind]
  have hinspect : d'.inspect path = d.inspect path := by
    unfold Disk.inspect
    rw [hfind]
  unfold Checkpoint.FoundAt
  rw [hread, hinspect]
  exact h

/-- What a written checkpoint is read as has the numbers of the batches as they are kept. -/
theorem Checkpoint.contains_of_parse? {c c' : Checkpoint} (h : parse? c.render = some c')
    {id : Nat} : c'.batches.contains id = true ↔
      ∃ n, c.batches.contains n = true ∧ keptCount n = id := by
  rw [parse?_render_kept] at h
  obtain rfl := Option.some.inj h
  rw [Ascending.contains_ofList, List.mem_map]
  simp only [Ascending.contains_iff]

/-- The numbers in a written checkpoint are below that of its next batch. -/
theorem Checkpoint.lt_next_of_parse? {c c' : Checkpoint} (h : parse? c.render = some c')
    {id : Nat} (hid : c'.batches.contains id = true) : id < c.next := by
  obtain ⟨n, hn, rfl⟩ := (contains_of_parse? h).1 hid
  have hle : keptCount n ≤ n := by
    unfold keptCount
    split <;> omega
  exact Nat.lt_of_le_of_lt hle (lt_next hn)

/-- A checkpoint that is read where another was read before is that one. -/
theorem Checkpoint.FoundAt.lt_next {c c' : Checkpoint} {path : Path}
    (h' : c'.FoundAt path d') (h : c.FoundAt path d)
    (hread : ∀ content, d'.read path = .ok content → d.read path = .ok content) {id : Nat}
    (hid : c'.batches.contains id = true) : id < c.next := by
  rcases h' with ⟨content, text, hc', ht', hp'⟩ | ⟨rfl, -⟩
  · have hcontent := hread content hc'
    rcases h with ⟨before, text₀, hc, ht, hp⟩ | ⟨-, hnone⟩
    · rw [hcontent] at hc
      obtain rfl := Except.ok.inj hc
      rw [ht'] at ht
      obtain rfl := Option.some.inj ht
      rw [hp'] at hp
      obtain rfl := Option.some.inj hp
      exact Checkpoint.lt_next hid
    · obtain ⟨hl, hg⟩ := read_ok_iff.1 hcontent
      exact absurd (inspect_of_locate hl hg) (hnone _)
  · exact absurd (Ascending.contains_iff.1 hid) List.not_mem_nil

namespace Runner

variable {r r' : Runner}

/-! ## What a runner relies on -/

/-- That the tables of a runner are there, and that the numbers in its checkpoint file are those
of batches before its next one. -/
structure InPlace (r : Runner) (d : Disk) : Prop where
  directories : ∀ k, d.HasDirectory (r.layout.table k).directory
  behind : ∀ c : Checkpoint, c.FoundAt r.layout.checkpoint d →
    ∀ id, c.batches.contains id = true → id < r.checkpoint.next

theorem InPlace.sameBut {n : Nat} (h : r.InPlace d) (hsame : SameBut (r.layout.Draft n) d d') :
    r.InPlace d' where
  directories k := (h.directories k).mono hsame.keepsDirectories
  behind c hc := h.behind c (hc.of_find (Layout.find_checkpoint h.directories hsame).symm)

/-! ## Steps -/

/-- Storing a batch touches drafts only, and writes the parts that have rows. -/
theorem ensures_store_draft (h : r.InPlace d) (o : BatchOutcome) :
    Job.Ensures s (SameBut (r.layout.Draft r.checkpoint.next) d)
      (fun _ d' => SameBut (r.layout.Draft r.checkpoint.next) d d' ∧
        ∀ k, o.rows k ≠ [] → d'.read ((r.layout.table k).partPath r.checkpoint.next) =
          .ok (Rows.render (o.rows k)).toUTF8)
      (r.store r.checkpoint.next o) d := by
  have hgrown {d₀ d₁ : Disk} (h₀ : SameBut (r.layout.Draft r.checkpoint.next) d d₀)
      (hg : Grown r.layout.OnWay d₀ d₁) : SameBut (r.layout.Draft r.checkpoint.next) d d₁ :=
    h₀.trans (Layout.sameBut_of_grown
      (fun k => (h.directories k).mono h₀.keepsDirectories) hg)
  refine ensures_store (I := SameBut (r.layout.Draft r.checkpoint.next) d) (.refl _ d)
    (fun _ h => h) (fun k d₀ d₁ d' _ h₀ hg hp => ?_) (fun k d₀ d₁ d' _ h₀ hg hw => ?_)
    fun d' h' hread => ⟨h', hread⟩
  · exact (hgrown h₀ hg).trans (hp.sameBut (.unfinished k))
  · refine (hgrown h₀ hg).trans (hw.sameBut ?_ ?_)
    · rw [Layout.place_part]
      exact .part k
    · rw [Layout.place_unfinished]
      exact .unfinished k

/-- Running a batch touches drafts only, until the checkpoint is written in one move. -/
theorem ensures_runBatch_written (h : r.InPlace d) (batch : InputBatch)
    {Q : BatchReport × Runner → Disk → Prop}
    (hq : ∀ time entryId d₁ d', SameBut (r.layout.Draft r.checkpoint.next) d d₁ →
      (∀ k, (r.outcome entryId time batch).rows k ≠ [] →
        d₁.read ((r.layout.table k).partPath r.checkpoint.next) =
          .ok (Rows.render ((r.outcome entryId time batch).rows k)).toUTF8) →
      Written r.layout.checkpoint
        (r.committed (r.outcome entryId time batch) time batch).checkpoint.render.toUTF8 d₁ d' →
      Q (r.report (r.outcome entryId time batch) batch,
        r.committed (r.outcome entryId time batch) time batch) d') :
    Job.Ensures s (SameBut (r.layout.Draft r.checkpoint.next) d) Q (r.runBatch batch) d := by
  refine ensures_runBatch (.refl _ d) fun time entryId _ =>
    (ensures_store_draft h _).mono (fun _ h => h) ?_
  rintro _ d₁ ⟨h₁, hread⟩
  have hdirs₁ (k : TableKind) := (h.directories k).mono h₁.keepsDirectories
  have hroot {d₂ : Disk} (hg : Grown r.layout.root.OnWay d₁ d₂) :
      SameBut (r.layout.Draft r.checkpoint.next) d d₂ := by
    refine h₁.trans (Layout.sameBut_of_grown hdirs₁ (hg.mono fun pl hpl => ⟨.clean, ?_⟩))
    obtain ⟨ns, hns, rfl⟩ := hpl
    refine ⟨ns, hns.trans ?_, rfl⟩
    show r.layout.root.names <+: (r.layout.root.join "clean").names
    rw [Path.names_join _ (by decide)]
    exact List.prefix_append _ _
  refine Checkpoint.ensures_save (by decide) ?_ (fun d₂ d' hg hp => ?_) fun d₂ d' hg hw => ?_
  · show r.layout.checkpoint.temporary.place ≠ r.layout.checkpoint.place
    rw [r.layout.place_unfinishedCheckpoint, r.layout.place_checkpoint]
    exact fun he => nomatch Layout.placeOf_inj.1 he
  · have hplace := r.layout.place_unfinishedCheckpoint
    rw [Layout.checkpoint] at hplace
    rw [hplace] at hp
    exact (hroot hg).trans (hp.sameBut .checkpoint)
  · exact hq time entryId d₂ d' (hroot hg) (fun k hk => hg.read (hread k hk)) hw

/-- After a batch is committed, the checkpoint file has the numbers that the runner has. -/
theorem foundAt_committed {o : BatchOutcome} {time : Instant} {batch : InputBatch}
    (hw : Written r.layout.checkpoint (r.committed o time batch).checkpoint.render.toUTF8 d d')
    {c : Checkpoint} (hc : c.FoundAt r.layout.checkpoint d') :
    Checkpoint.parse? (r.committed o time batch).checkpoint.render = some c := by
  rcases hc with ⟨content, text, hcontent, htext, hparse⟩ | ⟨-, hnone⟩
  · obtain rfl := Except.ok.inj (hcontent.symm.trans hw.read)
    rw [Rows.fromUTF8?_toUTF8] at htext
    obtain rfl := Option.some.inj htext
    exact hparse
  · obtain ⟨hl, hg⟩ := read_ok_iff.1 hw.read
    exact absurd (inspect_of_locate hl hg) (hnone _)

theorem InPlace.committed (h : r.InPlace d) {d₁ : Disk} {o : BatchOutcome} {time : Instant}
    {batch : InputBatch} (hsame : SameBut (r.layout.Draft r.checkpoint.next) d d₁)
    (hw : Written r.layout.checkpoint
      (r.committed o time batch).checkpoint.render.toUTF8 d₁ d') :
    (r.committed o time batch).InPlace d' where
  directories k := ((h.directories k).mono hsame.keepsDirectories).mono hw.keepsDirectories
  behind _ hc _ hid := Checkpoint.lt_next_of_parse? (foundAt_committed hw hc) hid

/-- Running a batch touches drafts only, unless it commits the batch. -/
theorem ensures_runBatch_draft (h : r.InPlace d) (batch : InputBatch) :
    Job.Ensures s (SameBut (r.layout.Draft r.checkpoint.next) d) (fun x d' => x.2.InPlace d')
      (r.runBatch batch) d :=
  ensures_runBatch_written h batch fun _ _ _ _ hsame _ hw => h.committed hsame hw

/-- That a runner is as before but for its source, and the disk but for drafts. -/
structure Untouched (r : Runner) (d : Disk) (r' : Runner) (d' : Disk) : Prop where
  checkpoint : r'.checkpoint = r.checkpoint
  history : r'.history = r.history
  failed : r'.failed = r.failed
  disk : SameBut (r.layout.Draft r.checkpoint.next) d d'

theorem ensures_step_draft (h : r.InPlace d) : Action.Ensures s (fun _ => True)
    (fun x d' => x.2.InPlace d' ∧ ∀ e, x.1 = .error e → r.Untouched d x.2 d') r.step d := by
  have hkept (src : Source) {d' : Disk}
      (hsame : SameBut (r.layout.Draft r.checkpoint.next) d d') :
      InPlace { r with source := src } d' ∧ r.Untouched d { r with source := src } d' :=
    ⟨⟨(h.sameBut hsame).directories, (h.sameBut hsame).behind⟩, rfl, rfl, rfl, hsame⟩
  refine ensures_step trivial (fun e src _ => ?_) (fun src _ => ?_) fun batch src _ =>
    ⟨SameBut (r.layout.Draft r.checkpoint.next) d, fun d' hsame => ⟨trivial, fun e => ?_⟩, ?_⟩
  · exact ⟨(hkept src (.refl _ d)).1, fun _ _ => (hkept src (.refl _ d)).2⟩
  · exact ⟨(hkept src (.refl _ d)).1, fun _ he => by cases he⟩
  · exact ⟨(hkept src hsame).1, fun _ _ => (hkept src hsame).2⟩
  · have hrun := ensures_runBatch_draft (s := s) (hkept src (.refl _ d)).1 batch
    exact hrun.mono (fun _ h => h) fun x d' hx => ⟨hx, fun _ he => by cases he⟩

/-! ## Opening -/

/-- A runner is opened with the checkpoint and the events that the disk has, which loses files
of no use only. -/
theorem ensures_open {rules : RuleSet} {source : Source} {layout : Layout} {options : Options}
    {Q : Runner → Disk → Prop}
    (hq : ∀ c history d₁ d', (∀ k, d₁.HasDirectory (layout.table k).directory) →
      c.FoundAt layout.checkpoint d₁ →
      PartTable.Pruned (layout.StaleAt c.batches d₁) d₁ d' →
      layout.metrics.Shows Event.parse? c.batches d' history →
      Q { rules, source, layout, options, checkpoint := c, history,
          frozen := if options.frozen then some (.ofEvents history) else none } d') :
    Job.Ensures s (fun _ => True) Q (open? rules source layout options) d := by
  refine (Layout.ensures_ensure (Q := fun _ d₁ => ∀ k, d₁.HasDirectory (layout.table k).directory)
    (fun _ _ => trivial) fun _ _ hdirs => hdirs).bind ?_
  rintro _ d₁ hdirs
  refine (Checkpoint.ensures_load_found (Q := fun c d₂ => d₂ = d₁ ∧
    c.FoundAt layout.checkpoint d₁) trivial fun c hc => ⟨rfl, hc⟩).bind ?_
  rintro c d₂ ⟨rfl, hc⟩
  refine (Layout.ensures_discardAll (Q := fun _ d₃ => PartTable.Pruned
    (layout.StaleAt c.batches d₂) d₂ d₃) hdirs (fun _ _ => trivial) fun _ h _ => h).bind ?_
  rintro _ d₃ hpruned
  refine (PartTable.ensures_readCommitted_shows (Q := fun history d' => d' = d₃ ∧
    layout.metrics.Shows Event.parse? c.batches d₃ history) trivial
      fun history h => ⟨rfl, h⟩).bind ?_
  rintro history d' ⟨rfl, hshows⟩
  exact ensures_pure (hq c history d₂ d' hdirs hc hpruned hshows)

/-- A runner with the checkpoint of a disk relies on what is there after the pruning. -/
theorem InPlace.of_pruned (hdirs : ∀ k, d.HasDirectory (r.layout.table k).directory)
    (hc : r.checkpoint.FoundAt r.layout.checkpoint d)
    (hpruned : PartTable.Pruned (r.layout.StaleAt r.checkpoint.batches d) d d') :
    r.InPlace d' := by
  refine ⟨fun k => (hdirs k).mono hpruned.keepsDirectories, fun c' hc' id hid => ?_⟩
  refine hc'.lt_next hc (fun content hread => ?_) hid
  -- a file that is there now was there before the pruning
  obtain ⟨-, hg⟩ := read_ok_iff.1 hread
  obtain ⟨hwalk, hdir⟩ := Layout.walk_root (hdirs .clean)
  refine read_ok_iff.2 ⟨(locate_join (by decide) (by decide) hwalk hdir).trans
    (congrArg Except.ok (Path.place_join _ (by decide)).symm), ?_⟩
  rcases hpruned r.layout.checkpoint.place with he | ⟨-, -, hnone⟩
  · rw [← he, hg]
  · rw [hnone] at hg
    cases hg

theorem ensures_open_inPlace (rules : RuleSet) (source : Source) (layout : Layout)
    (options : Options) (d : Disk) : Job.Ensures s (fun _ => True)
      (fun r d' => r.InPlace d') (open? rules source layout options) d :=
  ensures_open fun _ _ _ _ hdirs hc hpruned _ => .of_pruned hdirs hc hpruned

/-! ## Reachable states -/

/-- The states that a runner and the disk can come to: it is opened, on any disk and under any
fates, and takes steps that give a result, whatever it is.  In between it may be handed another
source, and all files may change but the checkpoint's, and all directories but the tables'. -/
inductive Reachable : Runner → Disk → Prop
  | opened {rules : RuleSet} {source : Source} {layout : Layout} {options : Options}
      {s : Surroundings} {fates rest : List Fate} {d d' : Disk} {r : Runner}
      (h : Action.runUnder s (open? rules source layout options).run fates d =
        ⟨some (.ok r), rest, d'⟩) : Reachable r d'
  | stepped {r r' : Runner} {s : Surroundings} {fates rest : List Fate} {d d' : Disk}
      {result : Except Failure (Option BatchReport)} (hr : Reachable r d)
      (h : r.step.runUnder s fates d = ⟨some (result, r'), rest, d'⟩) : Reachable r' d'
  | supplied {r : Runner} {d : Disk} (hr : Reachable r d) (source : Source) :
      Reachable { r with source } d
  | edited {r : Runner} {d d' : Disk} (hr : Reachable r d)
      (hdirs : ∀ k, d'.HasDirectory (r.layout.table k).directory)
      (hfile : ∀ content, d'.read r.layout.checkpoint = .ok content ↔
        d.read r.layout.checkpoint = .ok content) : Reachable r d'

/-- What a runner relies on is there in every state that it can come to. -/
theorem Reachable.inPlace (h : Reachable r d) : r.InPlace d := by
  induction h with
  | opened h => exact (ensures_open_inPlace _ _ _ _ _).result h
  | stepped hr h ih => exact ((ensures_step_draft ih).result h).1
  | supplied hr source ih => exact ⟨ih.directories, ih.behind⟩
  | edited hr hdirs hfile ih =>
    refine ⟨hdirs, fun c hc id hid => ?_⟩
    rcases hc with ⟨content, text, hread, htext, hparse⟩ | ⟨rfl, -⟩
    · exact ih.behind c (.inl ⟨content, text, (hfile content).1 hread, htext, hparse⟩) id hid
    · exact absurd (Ascending.contains_iff.1 hid) List.not_mem_nil

theorem step_memory {records : List Record} {rest : List (List Record)} {served : Nat}
    (h : r.source = .memory (records :: rest) served) : r.step =
      ((runBatch { r with source := .memory rest (served + 1) }
        ⟨"memory-" ++ toString served, records⟩).run >>= fun
          | .error e => pure (.error e, { r with source := .memory rest (served + 1) })
          | .ok (report, r) => pure (.ok (some report), r)) := by
  rw [step, h]
  rfl

end Runner
end Quarantine
