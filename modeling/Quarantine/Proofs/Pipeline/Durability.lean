import Quarantine.Proofs.Pipeline.Availability

/-!
# What is committed stays

Whatever is done to a root that was empty, under whatever fates, what is committed stays: the
batches and the inputs of the checkpoint, and the parts of the committed batches.  In between,
a runner, the checkpoint file, the metrics and the entries agree, so that a runner opened next
starts with what the one before knew.

    Move l x e y  →  committed in x → committed in y, with the same parts      (committed_stays)
    x.runner = some r  →  checkpoint file = r.checkpoint
                          metrics = aggregate entries = r.history              (runner_agrees)
-/

namespace Quarantine

open Quarantine.Disk Quarantine.Job Quarantine.Json

variable {l : Layout} {cs : List Commit} {s : Surroundings} {d d' : Disk}

/-! ## Parts of committed batches -/

namespace Layout

/-- A committed part that is there is read, and one that is not there is not found. -/
theorem Keeps.read_part (h : l.Keeps cs d) {id : Nat} (hid : id < cs.length) (k : TableKind) :
    d.read ((l.table k).partPath id) =
      (l.partFile? d k id).elim (.error .notFound) .ok := by
  have hsmall := h.small
  have hdir := h.directories (List.ne_nil_of_length_pos (by omega)) k
  have hshort := @PartTable.utf8ByteSize_partName id (by omega)
  have hl := hdir.locate_join (PartTable.isName_partName id) (by unfold longestName; omega)
  have hplace := l.place_part k id
  rw [PartTable.partPath] at hplace ⊢
  cases hg : d.get? (l.placeOf (.part k id)) with
  | none =>
    rw [partFile?, file?_of_none hg, Disk.read, Disk.find, hl, hplace]
    simp only [bind, Except.bind, hg]
    rfl
  | some node =>
    obtain ⟨⟨content, rfl⟩, -⟩ := h.permits hg
    rw [partFile?, file?_of_get? hg]
    exact read_ok_iff.2 ⟨hl, hplace ▸ hg⟩

theorem Keeps.read_part_eq (h : l.Keeps cs d) {new : List Commit} (h' : l.Keeps (cs ++ new) d')
    (hparts : l.Retains cs.length d d') {id : Nat} (hid : id < cs.length) (k : TableKind) :
    d'.read ((l.table k).partPath id) = d.read ((l.table k).partPath id) := by
  have hid' : id < (cs ++ new).length := by
    rw [List.length_append]
    omega
  rw [h.read_part hid, h'.read_part hid', hparts k id hid]

/-- That a checkpoint is the one that is loaded, and a runner that is there has it. -/
def Current (l : Layout) (x : World) (c : Checkpoint) : Prop :=
  (∀ s, (Checkpoint.load l.checkpoint).outcome s x.disk = (.ok c, x.disk)) ∧
    ∀ r ∈ x.runner, r.checkpoint = c

/-- That nothing which a checkpoint commits is taken back or changed in another one. -/
structure Preserves (l : Layout) (c c' : Checkpoint) (d d' : Disk) : Prop where
  batches : ∀ id, c.batches.contains id = true → c'.batches.contains id = true
  inputs : ∀ input, c.isProcessed input = true → c'.isProcessed input = true
  /-- No number is used again. -/
  next : ∀ id, c'.batches.contains id = true → id < c'.next
  parts : ∀ id, c.batches.contains id = true → ∀ k,
    d'.read ((l.table k).partPath id) = d.read ((l.table k).partPath id)

end Layout

/-- The inputs of the commits are those that are processed. -/
theorem isProcessed_checkpointOf {input : String} :
    (checkpointOf cs).isProcessed input = true ↔ ∃ c ∈ cs, c.batch.source = input := by
  have hfrom : ∀ k : Checkpoint,
      (cs.foldl (fun k c => k.commit k.next c.batch.source c.time) k).isProcessed input = true ↔
        (∃ c ∈ cs, c.batch.source = input) ∨ k.isProcessed input = true := by
    induction cs with
    | nil => simp
    | cons c cs ih =>
      intro k
      rw [List.foldl_cons, ih, Checkpoint.isProcessed_commit, or_left_comm, ← or_assoc,
        eq_comm (a := input)]
      simp only [List.mem_cons, exists_eq_or_imp]
  rw [checkpointOf, hfrom]
  exact or_iff_left fun h => absurd (Ascending.contains_iff.1 h) List.not_mem_nil

section

variable {start : Disk} {hs : List Happening} {x y : World} {r : Runner}

theorem Chronicle.current (h : Chronicle l hs cs x) : l.Current x (checkpointOf cs) :=
  ⟨h.keeps.load, fun r hr => (h.upToDate r hr).checkpoint⟩

/-! ## Moves -/

/-- Whatever is done to a root, no batch and no input is taken back, the next batch is above all
of them, and the parts of the batches in all tables read as before. -/
theorem Life.committed_stays (hempty : EmptyRoot start l.root) (h : Life l start hs x)
    {e : Option Happening} (m : Move l x e y) :
    ∃ c c', l.Current x c ∧ l.Current y c' ∧ (∀ id, c.batches.contains id = true → id < c.next) ∧
      l.Preserves c c' x.disk y.disk := by
  obtain ⟨cs, hcs⟩ := h.exists_chronicle hempty
  obtain ⟨new, hnew, hparts⟩ := hcs.move m
  refine ⟨checkpointOf cs, checkpointOf (cs ++ new), hcs.current, hnew.current,
    fun id => Checkpoint.lt_next, ?_, ?_, fun id => Checkpoint.lt_next, ?_⟩
  · intro id hid
    have hlt := contains_checkpointOf.1 hid
    rw [contains_checkpointOf, List.length_append]
    omega
  · intro input hinput
    obtain ⟨c, hc, he⟩ := isProcessed_checkpointOf.1 hinput
    exact isProcessed_checkpointOf.2 ⟨c, List.mem_append_left _ hc, he⟩
  · intro id hid k
    exact hcs.keeps.read_part_eq hnew.keeps hparts (contains_checkpointOf.1 hid) k

/-- The first batch stays when the second is committed. -/
theorem Life.first_stays_sample : ∃ hs x batch report y, Life Runner.sample.layout .empty hs x ∧
    Move Runner.sample.layout x (some (.committed batch report)) y ∧
    ∃ c c', Runner.sample.layout.Current x c ∧ Runner.sample.layout.Current y c' ∧
      (∀ id, c.batches.contains id = true → id < c.next) ∧
      Runner.sample.layout.Preserves c c' x.disk y.disk ∧ c.batches.contains 0 = true ∧
      ∃ content, x.disk.read (Runner.sample.layout.entries.partPath 0) = .ok content := by
  obtain ⟨x₀, r₀, h₀, hr₀⟩ := Life.exists_opened_sample
  obtain ⟨report, x, r, m, hr⟩ :=
    h₀.exists_committed emptyRoot_sample hr₀ (by decide) Runner.sampleBatch
  have h := h₀.moved m
  have h64 : 1 < 0x10000000000000000 := by decide
  obtain ⟨report', y, -, m', -⟩ := h.exists_committed emptyRoot_sample hr h64 Runner.sampleBatch
  obtain ⟨c, c', hc, hc', hnext, hkept⟩ := h.committed_stays emptyRoot_sample m'
  -- the checkpoint is that of the one commit
  obtain ⟨cs, hcs⟩ := h.exists_chronicle emptyRoot_sample
  have hlt : 0 < cs.length := by
    rw [hcs.length_eq]
    exact Nat.zero_lt_one
  refine ⟨_, x, _, report', y, h, m', c, c', hc, hc', hnext, hkept, ?_, _,
    hcs.keeps.parts 0 cs[0] (List.getElem?_eq_getElem hlt) .entries (List.cons_ne_nil _ _)⟩
  rw [← hc.2 r hr, (hcs.upToDate r hr).checkpoint]
  exact contains_checkpointOf.2 hlt

/-! ## Runners -/

/-- That a runner, the checkpoint file, the metrics and the entries agree. -/
structure Runner.Agrees (r : Runner) (l : Layout) (s : Surroundings) (d : Disk) : Prop where
  checkpoint : (Checkpoint.load l.checkpoint).outcome s d = (.ok r.checkpoint, d)
  metrics : (l.metrics.readCommitted Event.parse? r.checkpoint.batches).outcome s d =
    (.ok r.history, d)
  entries : ∃ entries, (l.entries.readCommitted Entry.parse? r.checkpoint.batches).outcome s d =
    (.ok entries, d) ∧ aggregate entries = r.history

/-- A runner agrees with the root that it was opened on, and one that is opened next, which
succeeds where nothing is refused, starts with the same checkpoint and the same history. -/
theorem Life.runner_agrees (hempty : EmptyRoot start l.root) (h : Life l start hs x)
    (hr : x.runner = some r) (s : Surroundings) : r.layout = l ∧ r.Agrees l s x.disk ∧
      ∀ rules source options, Succeeds s (Runner.open? rules source l options) x.disk ∧
        ∀ fates r' rest d, Action.runUnder s (Runner.open? rules source l options).run fates
          x.disk = ⟨some (.ok r'), rest, d⟩ →
            r'.checkpoint = r.checkpoint ∧ r'.history = r.history := by
  obtain ⟨cs, hcs⟩ := h.exists_chronicle hempty
  obtain ⟨hlayout, hdirs, hcheckpoint, hhistory, -⟩ := hcs.upToDate r hr
  refine ⟨hlayout, ⟨?_, ?_, ?_⟩, fun rules source options => ⟨?_, fun fates r' rest d hrun => ?_⟩⟩
  · rw [hcheckpoint]
    exact hcs.keeps.load s
  · rw [hcheckpoint, hhistory]
    exact hcs.keeps.shows_history.outcome
  · rw [hcheckpoint, hhistory]
    exact ⟨_, hcs.keeps.shows_entries.outcome, aggregate_entries cs⟩
  · exact Runner.succeeds_open hcs.keeps hdirs rules source options
  · obtain ⟨-, -, rfl, -⟩ :=
      (Runner.ensures_open_keeps hcs.keeps rules source options).result hrun
    exact ⟨hcheckpoint.symm, hhistory.symm⟩

/-- After a batch the runner agrees with the root. -/
theorem Life.runner_agrees_sample : ∃ batch report x r,
    Life Runner.sample.layout .empty
      ([.opened Runner.sample.rules false] ++ [.committed batch report]) x ∧
    x.runner = some r ∧ r.checkpoint.next = 1 ∧ r.layout = Runner.sample.layout ∧
      r.Agrees Runner.sample.layout ⟨.epoch, "id"⟩ x.disk ∧
      ∀ rules source options,
        Succeeds ⟨.epoch, "id"⟩ (Runner.open? rules source Runner.sample.layout options) x.disk ∧
        ∀ fates r' rest d, Action.runUnder ⟨.epoch, "id"⟩
          (Runner.open? rules source Runner.sample.layout options).run fates x.disk =
            ⟨some (.ok r'), rest, d⟩ →
              r'.checkpoint = r.checkpoint ∧ r'.history = r.history := by
  obtain ⟨x₀, r₀, h₀, hr₀⟩ := Life.exists_opened_sample
  obtain ⟨report, x, r, m, hr⟩ :=
    h₀.exists_committed emptyRoot_sample hr₀ (by decide) Runner.sampleBatch
  have h := h₀.moved m
  exact ⟨_, report, x, r, h, hr, h.next_eq emptyRoot_sample hr,
    h.runner_agrees emptyRoot_sample hr ⟨.epoch, "id"⟩⟩

end

end Quarantine
