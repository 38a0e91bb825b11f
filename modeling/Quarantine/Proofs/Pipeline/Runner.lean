import Quarantine.Pipeline.Runner
import Quarantine.Proofs.Pipeline.Batch
import Quarantine.Proofs.Storage.Checkpoint
import Quarantine.Proofs.Storage.Source

/-!
# Steps of a runner under every fate

A step asks the source, writes the parts of the batch table by table and then the checkpoint.
The rules here reduce what a step ensures to what a single write does:

    store    each table with rows: directories, then a part in one move
    runBatch store, then the checkpoint in one move
    step     nothing on the disk unless the source gives a batch
-/

namespace Quarantine

open Quarantine.Disk Quarantine.Job Quarantine.Json

variable {s : Surroundings} {S : Disk → Prop} {d : Disk}

namespace Layout

variable {l : Layout}

/-! ## Opening -/

/-- The directories of all tables are made, and those on the way to them. -/
theorem ensures_ensure {Q : Unit → Disk → Prop} (hs : ∀ d', Grown l.OnWay d d' → S d')
    (hp : ∀ d', Grown l.OnWay d d' → (∀ k, d'.HasDirectory (l.table k).directory) → Q () d') :
    Job.Ensures s S Q l.ensure d := by
  refine (ensures_forM l.tables (S := S) (I := fun done d' =>
    Grown l.OnWay d d' ∧ ∀ t ∈ done, d'.HasDirectory t.directory)
    ⟨.refl _ d, fun t h => absurd h List.not_mem_nil⟩ ?_).mono (fun _ h => h) ?_
  · rintro done t ht d₁ ⟨hg, hdone⟩
    obtain ⟨k, rfl⟩ := mem_tables ht
    have hway (pl : Place) (h : (l.table k).directory.OnWay pl) : l.OnWay pl := ⟨k, h⟩
    obtain ⟨p, name, hn, hdir⟩ := l.exists_directory_table k
    rw [hdir] at hway ⊢
    refine ensures_ensureDirectory hn (fun d₂ h => hs d₂ (hg.trans (h.mono hway)))
      fun d₂ h hthere => ⟨hg.trans (h.mono hway), fun t ht => ?_⟩
    rcases List.mem_append.1 ht with ht | ht
    · exact (hdone t ht).mono h.keepsDirectories
    · rw [List.mem_singleton.1 ht, hdir]
      exact hthere
  · rintro _ d' ⟨hg, hall⟩
    exact hp d' hg fun k => hall _ (l.table_mem_tables k)

/-- The places of the files of no use. -/
def StaleAt (l : Layout) (committed : Ascending Nat) (d : Disk) (pl : Place) : Prop :=
  ∃ k name, (l.table k).Discarded committed d name ∧
    pl = ((l.table k).directory.join name).place

/-- What is of no use is gone from all tables, and nothing else is. -/
theorem ensures_discardAll {committed : Ascending Nat} {Q : Unit → Disk → Prop}
    (hdirs : ∀ k, d.HasDirectory (l.table k).directory)
    (hs : ∀ d', PartTable.Pruned (l.StaleAt committed d) d d' → S d')
    (hp : ∀ d', PartTable.Pruned (l.StaleAt committed d) d d' →
      (∀ k name, Path.IsName name → PartTable.isStale committed name = true →
        d'.get? ((l.table k).directory.place ++ [name]) = none) → Q () d') :
    Job.Ensures s S Q
      (l.tables.forM fun t => discard (t.discardUncommitted committed)) d := by
  refine (ensures_forM l.tables (S := S) (I := fun done d' =>
    PartTable.Pruned (l.StaleAt committed d) d d' ∧ ∀ t ∈ done, ∀ name, Path.IsName name →
      PartTable.isStale committed name = true → d'.get? (t.directory.place ++ [name]) = none)
    ⟨.refl _ d, fun t h => absurd h List.not_mem_nil⟩ ?_).mono (fun _ h => h) ?_
  · rintro done t ht d₁ ⟨hpruned, hdone⟩
    obtain ⟨k, rfl⟩ := mem_tables ht
    refine Job.ensures_discard (PartTable.ensures_discardUncommitted (l.StaleAt committed d)
      (fun name hname => ⟨k, name, ⟨hname.1, ?_⟩, rfl⟩) (fun d₂ h => hs d₂ (hpruned.trans h))
      fun _ d₂ h hgone => ⟨hpruned.trans h, fun t ht name hn hstale => ?_⟩)
    · -- what is there now was there at the start
      obtain ⟨n, hg⟩ := mem_children_iff.1 hname.2
      refine mem_children_iff.2 ⟨n, ?_⟩
      rcases hpruned ((l.table k).directory.place ++ [name]) with he | ⟨-, -, hnone⟩
      · rw [← he, hg]
      · rw [hnone] at hg
        cases hg
    · rcases List.mem_append.1 ht with ht | ht
      · exact h.none (hdone t ht name hn hstale)
      · rw [List.mem_singleton.1 ht]
        cases hg : d₁.get? ((l.table k).directory.place ++ [name]) with
        | none => exact h.none hg
        | some n =>
          rw [← Path.place_join _ hn]
          exact hgone ((hdirs k).mono hpruned.keepsDirectories) name
            ⟨hstale, mem_children_iff.2 ⟨n, hg⟩⟩
  · rintro _ d' ⟨hpruned, hall⟩
    exact hp d' hpruned fun k => hall _ (l.table_mem_tables k)

end Layout

namespace Runner

variable {r : Runner}

/-! ## Storing -/

theorem store_eq_forM (r : Runner) (id : Nat) (o : BatchOutcome) :
    r.store id o = TableKind.all.forM fun k =>
      discard ((r.layout.table k).writePart id (o.rows k)) := by
  simp only [TableKind.all, List.forM, bind_pure_unit]
  rfl

/-- The parts of a batch are written one after the other.  What each write keeps, whether it is
carried out or not, the whole keeps; in the end there is a part with the rows of each table that
has rows. -/
theorem ensures_store {id : Nat} {o : BatchOutcome} {I : Disk → Prop}
    {Q : Unit → Disk → Prop} (hi : I d) (hs : ∀ d', I d' → S d')
    (hpartly : ∀ k d₀ d₁ d', o.rows k ≠ [] → I d₀ → Grown r.layout.OnWay d₀ d₁ →
      Partly (r.layout.placeOf (.unfinished k id)) d₁ d' → I d')
    (hwritten : ∀ k d₀ d₁ d', o.rows k ≠ [] → I d₀ → Grown r.layout.OnWay d₀ d₁ →
      Written ((r.layout.table k).partPath id) (Rows.render (o.rows k)).toUTF8 d₁ d' → I d')
    (hp : ∀ d', I d' → (∀ k, o.rows k ≠ [] → d'.read ((r.layout.table k).partPath id) =
      .ok (Rows.render (o.rows k)).toUTF8) → Q () d') :
    Job.Ensures s S Q (r.store id o) d := by
  rw [store_eq_forM]
  refine (ensures_forM TableKind.all (S := S) (I := fun done d' => I d' ∧
    ∀ k ∈ done, o.rows k ≠ [] → d'.read ((r.layout.table k).partPath id) =
      .ok (Rows.render (o.rows k)).toUTF8) ⟨hi, fun k h => absurd h List.not_mem_nil⟩ ?_).mono
    (fun _ h => h) ?_
  · rintro done k - d₀ ⟨hinv, hdone⟩
    obtain ⟨p, name, hn, hdir⟩ := r.layout.exists_directory_table k
    have hway {d₁ : Disk} (hg : Grown (r.layout.table k).directory.OnWay d₀ d₁) :
        Grown r.layout.OnWay d₀ d₁ := hg.mono fun _ h => ⟨k, h⟩
    refine Job.ensures_discard (PartTable.ensures_writePart hn hdir
      (fun hnone => ⟨hinv, fun k' hk' hne => ?_⟩)
      (fun hne d₁ d' hg h => hs d' (hpartly k d₀ d₁ d' hne hinv (hway hg) ?_))
      fun hne d₁ d' hg h => ⟨hwritten k d₀ d₁ d' hne hinv (hway hg) h, fun k' hk' hne' => ?_⟩)
    · rcases List.mem_append.1 hk' with hk' | hk'
      · exact hdone k' hk' hne
      · exact absurd (List.mem_singleton.1 hk' ▸ hnone) hne
    · rw [← r.layout.place_unfinished]
      exact h
    · by_cases hkk : k' = k
      · rw [hkk]
        exact h.read
      · rcases List.mem_append.1 hk' with hk' | hk'
        · obtain ⟨hl, hf⟩ := read_ok_iff.1 (hdone k' hk' hne')
          refine read_ok_iff.2 ⟨locate_mono (hg.keepsDirectories.trans h.keepsDirectories) hl, ?_⟩
          rw [h.other]
          · rcases hg ((r.layout.table k').partPath id).place with he | ⟨-, hnone, -⟩
            · rw [he, hf]
            · rw [hnone] at hf
              cases hf
          · rw [Layout.place_part, Layout.place_part]
            exact fun he => hkk (Slot.part.inj (Layout.placeOf_inj.1 he)).1
          · rw [Layout.place_part, Layout.place_unfinished]
            exact fun he => nomatch Layout.placeOf_inj.1 he
        · exact absurd (List.mem_singleton.1 hk') hkk
  · rintro _ d' ⟨hinv, hall⟩
    exact hp d' hinv fun k => hall k (TableKind.mem_all k)

/-! ## Batches -/

/-- What the rules make of the records of a batch. -/
def outcome (r : Runner) (entryId : String) (time : Instant) (batch : InputBatch) :
    BatchOutcome :=
  .of r.rules r.options.partitions entryId time r.failedWith batch.records

def report (r : Runner) (o : BatchOutcome) (batch : InputBatch) : BatchReport where
  batch := r.checkpoint.next
  source := batch.source
  records := batch.records.length
  clean := o.clean.length
  quarantined := o.quarantined.length
  redacted := o.redacted
  redactionFailures := o.redactionFailures
  selected := o.plan.names

/-- The runner after a batch. -/
def committed (r : Runner) (o : BatchOutcome) (time : Instant) (batch : InputBatch) : Runner :=
  { r with
    checkpoint := r.checkpoint.commit r.checkpoint.next batch.source time
    history := r.history ++ o.events }

theorem ensures_time {Q : Instant → Disk → Prop} (hs : S d)
    (hp : ∀ t, (∀ t', r.options.time = some t' → t = t') → Q t d) :
    Job.Ensures s S Q r.time d := by
  unfold time
  cases ht : r.options.time with
  | some t =>
    refine ensures_pure (hp t fun t' h => ?_)
    rw [ht] at h
    exact Option.some.inj h
  | none =>
    refine ensures_ask (o := .now) hs (fun t _ => hp t fun t' h => ?_) (fun _ _ => hs)
      fun _ => hs
    rw [ht] at h
    cases h

theorem runBatch_eq (r : Runner) (batch : InputBatch) : r.runBatch batch = (do
    let time ← r.time
    let entryId ← Job.ask .newId
    let o := r.outcome entryId time batch
    r.store r.checkpoint.next o
    (r.committed o time batch).checkpoint.save r.layout.checkpoint
    return (r.report o batch, r.committed o time batch)) := rfl

/-- A batch is stored and then committed. -/
theorem ensures_runBatch {batch : InputBatch} {Q : BatchReport × Runner → Disk → Prop}
    (hs : S d) (h : ∀ time entryId, (∀ t, r.options.time = some t → time = t) →
      Job.Ensures s S (fun _ d₁ => Job.Ensures s S (fun _ d' =>
        Q (r.report (r.outcome entryId time batch) batch,
          r.committed (r.outcome entryId time batch) time batch) d')
        ((r.committed (r.outcome entryId time batch) time batch).checkpoint.save
          r.layout.checkpoint) d₁)
        (r.store r.checkpoint.next (r.outcome entryId time batch)) d) :
    Job.Ensures s S Q (r.runBatch batch) d := by
  rw [runBatch_eq]
  refine (ensures_time (Q := fun t d' => d' = d ∧ ∀ t', r.options.time = some t' → t = t') hs
    fun t ht => ⟨rfl, ht⟩).bind ?_
  rintro time d' ⟨rfl, ht⟩
  refine (ensures_ask (o := .newId) (Q := fun _ d₁ => d₁ = d') hs (fun _ _ => rfl)
    (fun _ _ => hs) fun _ => hs).bind ?_
  rintro entryId d₁ rfl
  refine Job.Ensures.bind (h time entryId ht) fun _ d₂ h₂ => ?_
  refine Job.Ensures.bind (M := fun _ d' => Q (r.report (r.outcome entryId time batch) batch,
    r.committed (r.outcome entryId time batch) time batch) d') h₂ fun _ d₃ h₃ => ?_
  exact ensures_pure h₃

/-! ## Steps -/

/-- A step gives what the source gives, and where that is a batch, runs it. -/
theorem ensures_step {Q : Except Failure (Option BatchReport) × Runner → Disk → Prop}
    (hs : S d)
    (herror : ∀ e src, Source.Follows r.checkpoint d r.source (.error e) src →
      Q (.error e, { r with source := src }) d)
    (hnone : ∀ src, Source.Follows r.checkpoint d r.source (.ok none) src →
      Q (.ok none, { r with source := src }) d)
    (hbatch : ∀ batch src, Source.Follows r.checkpoint d r.source (.ok (some batch)) src →
      ∃ I : Disk → Prop,
        (∀ d', I d' → S d' ∧ ∀ e, Q (.error e, { r with source := src }) d') ∧
        Job.Ensures s I (fun x d' => Q (.ok (some x.1), x.2) d')
          (runBatch { r with source := src } batch) d) :
    Action.Ensures s S Q r.step d := by
  refine (Source.ensures_next (Q := fun x d' => d' = d ∧
    Source.Follows r.checkpoint d r.source x.1 x.2) hs fun result src h => ⟨rfl, h⟩).bind ?_
  rintro ⟨result, src⟩ d' ⟨rfl, hf⟩
  rcases result with e | _ | batch
  · exact Action.ensures_pure (herror e src hf)
  · exact Action.ensures_pure (hnone src hf)
  · obtain ⟨I, hinv, hrun⟩ := hbatch batch src hf
    refine (Action.Ensures.mono hrun (fun d₁ h => (hinv d₁ h).1)
      (R := Settled (fun d₁ => ∀ e, Q (.error e, { r with source := src }) d₁)
        fun x d₁ => Q (.ok (some x.1), x.2) d₁) ?_).bind ?_
    · rintro (e | x) d₁ h₁
      · exact (hinv d₁ h₁).2
      · exact h₁
    · rintro (e | ⟨report, r'⟩) d₁ h₁
      · exact Action.ensures_pure (h₁ e)
      · exact Action.ensures_pure h₁

end Runner
end Quarantine
