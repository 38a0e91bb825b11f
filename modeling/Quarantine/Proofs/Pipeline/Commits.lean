import Quarantine.Proofs.Pipeline.FailedStep
import Quarantine.Proofs.Pipeline.Leftovers

/-!
# Commits of a root

The batches that were committed to a root, in their order, say what its checkpoint is, what its
history is and what the parts of its tables hold.  Commits may come from runners with different
rules, and between them there may have been any attempts that failed.

    checkpointOf cs          batches 0 … n-1 and their inputs
    historyOf cs             the events of the batches, in their order
    Keeps l cs d             the disk has what the commits left under the root, and for the rest
                             only what can be discarded
    Keeps l cs d  →  the checkpoint file, the metrics and the entries are read as those of cs

A batch without events has no part in the metrics.  That none is left there by an attempt before
it is asked for where the batch is committed.
-/

namespace Quarantine

open Quarantine.Disk Quarantine.Job Quarantine.Json

/-! ## Commits -/

/-- A batch that was committed, and what its outcome came from. -/
structure Commit where
  rules : RuleSet
  /-- The failed rules that redactions were selected by. -/
  failed : FailedRules
  batch : InputBatch
  time : Instant
  entryId : String

namespace Commit

/-- What the rules made of the records. -/
def outcome (c : Commit) : BatchOutcome :=
  .of c.rules 1 c.entryId c.time (fun _ => c.failed) c.batch.records

theorem entry_outcome (c : Commit) : c.outcome.entry = Entry.progress c.entryId c.time
    cleanDataset c.rules (routeAll c.rules c.batch.records).tallies := by
  unfold outcome BatchOutcome.of
  rw [routeParallel_eq]

theorem events_outcome (c : Commit) : c.outcome.events = progressEvents c.time cleanDataset
    c.rules (routeAll c.rules c.batch.records).tallies := by
  have haggregate : c.outcome.events = aggregate [c.outcome.entry] := rfl
  rw [haggregate, entry_outcome]
  exact aggregate_progress ..

/-- Only without rules are there no events. -/
theorem events_eq_nil_iff {c : Commit} : c.outcome.events = [] ↔ c.rules.rules = [] := by
  rw [events_outcome, progressEvents, tallies_routeAll, RuleSet.names, List.zipWith_map,
    List.zipWith_self, List.map_eq_nil_iff]

end Commit

/-- The commit of a batch by a runner. -/
def Runner.commitOf (r : Runner) (entryId : String) (time : Instant) (batch : InputBatch) :
    Commit :=
  ⟨r.rules, r.failedWith (r.outcome entryId time batch).events, batch, time, entryId⟩

theorem Runner.outcome_commitOf (r : Runner) (entryId : String) (time : Instant)
    (batch : InputBatch) : (r.commitOf entryId time batch).outcome = r.outcome entryId time batch := by
  unfold commitOf Commit.outcome outcome BatchOutcome.of
  simp only [routeParallel_eq]

/-- The checkpoint after commits. -/
def checkpointOf (cs : List Commit) : Checkpoint :=
  cs.foldl (fun k c => k.commit k.next c.batch.source c.time) .empty

/-- The events of commits. -/
def historyOf (cs : List Commit) : List Event := cs.flatMap fun c => c.outcome.events

section

variable {cs : List Commit}

theorem checkpointOf_concat (cs : List Commit) (c : Commit) : checkpointOf (cs ++ [c]) =
    (checkpointOf cs).commit (checkpointOf cs).next c.batch.source c.time := by
  unfold checkpointOf
  rw [List.foldl_append]
  rfl

theorem historyOf_concat (cs : List Commit) (c : Commit) :
    historyOf (cs ++ [c]) = historyOf cs ++ c.outcome.events := by
  unfold historyOf
  rw [List.flatMap_append, List.flatMap_singleton]

/-- Commits one after the other have the batches from zero on. -/
theorem checkpointOf_batches (cs : List Commit) : (checkpointOf cs).next = cs.length ∧
    ∀ id, (checkpointOf cs).batches.contains id = true ↔ id < cs.length := by
  induction hn : cs.length generalizing cs with
  | zero =>
    obtain rfl := List.length_eq_zero_iff.1 hn
    refine ⟨rfl, fun id => ⟨fun h => ?_, fun h => absurd h (Nat.not_lt_zero id)⟩⟩
    exact absurd (Ascending.contains_iff.1 h) List.not_mem_nil
  | succ n ih =>
    obtain ⟨front, c, rfl⟩ := (List.eq_nil_or_concat cs).resolve_left
      (fun he => by rw [he] at hn; cases hn)
    rw [List.concat_eq_append] at hn ⊢
    have hfront : front.length = n := by
      rw [List.length_append, List.length_singleton] at hn
      omega
    obtain ⟨hnext, hcontains⟩ := ih front hfront
    rw [checkpointOf_concat, Checkpoint.next_commit, hnext]
    refine ⟨rfl, fun id => ?_⟩
    show ((checkpointOf front).batches.insert n).contains id = true ↔ _
    rw [Ascending.contains_insert, hcontains]
    omega

theorem next_checkpointOf (cs : List Commit) : (checkpointOf cs).next = cs.length :=
  (checkpointOf_batches cs).1

theorem contains_checkpointOf {id : Nat} :
    (checkpointOf cs).batches.contains id = true ↔ id < cs.length := (checkpointOf_batches cs).2 id

end

/-! ## What a disk keeps -/

/-- What may be at a slot. -/
def Permits (cs : List Commit) : Slot → Node → Prop
  | .directory _, node | .system, node => node = .directory
  | .part k id, node => (∃ content, node = .file content) ∧ id ≤ cs.length ∧
      ∀ c, cs[id]? = some c → k = .metrics → c.outcome.events ≠ []
  | .unfinished _ id, node => (∃ content, node = .file content) ∧ id ≤ cs.length
  | .unfinishedCheckpoint, node => ∃ content, node = .file content
  | .checkpoint, node => cs ≠ [] ∧ ∃ content, node = .file content


/-- That a disk has what some commits left, and under the root nothing else but directories and
what can be discarded. -/
structure Layout.Keeps (l : Layout) (cs : List Commit) (d : Disk) : Prop where
  /-- The way to the root does not lead under it. -/
  way : ∀ pl, l.root.OnWay pl → ¬ l.root.Below pl
  /-- The numbers of the batches are 64-bit numbers. -/
  small : cs.length ≤ 0x10000000000000000
  below : ∀ pl node, l.root.Below pl → d.get? pl = some node →
    ∃ a, pl = l.placeOf a ∧ Permits cs a node
  directories : cs ≠ [] → ∀ k, d.HasDirectory (l.table k).directory
  parts : ∀ id c, cs[id]? = some c → ∀ k, c.outcome.rows k ≠ [] →
    d.read ((l.table k).partPath id) = .ok (Rows.render (c.outcome.rows k)).toUTF8
  checkpoint : cs ≠ [] → d.read l.checkpoint = .ok (checkpointOf cs).render.toUTF8

namespace Layout

variable {l : Layout} {cs : List Commit} {d d' : Disk}

theorem keeps_of_empty (h : EmptyRoot d l.root) : l.Keeps [] d where
  way := h.way
  small := Nat.zero_le _
  below pl node hb hg := by
    rw [h.nothing pl hb] at hg
    cases hg
  directories h := absurd rfl h
  parts id c h := by cases h
  checkpoint h := absurd rfl h

/-- A node at a slot is one that may be there. -/
theorem Keeps.permits (h : l.Keeps cs d) {a : Slot} {node : Node}
    (hg : d.get? (l.placeOf a) = some node) : Permits cs a node :=
  Allows.of_get? h.below hg

/-! ### What keeps it -/

/-- A disk that changed only where nothing is committed, and there as it may, keeps the same. -/
theorem Keeps.change (h : l.Keeps cs d) (hk : KeepsDirectories d d')
    (hc : ∀ pl, d'.get? pl = d.get? pl ∨ ¬ l.root.Below pl ∨
      ∃ a, pl = l.placeOf a ∧ ¬ Workload.Fixed cs.length a ∧
        ∀ node, d'.get? pl = some node → Permits cs a node) : l.Keeps cs d' := by
  have hsettled {a : Slot} (ha : Workload.Fixed cs.length a) {path : Path} {content : ByteArray}
      (hplace : path.place = l.placeOf a) (hr : d.read path = .ok content) :
      d'.read path = .ok content := by
    refine read_of_unchanged hk (fun pl => ?_) ha hplace hr
    exact (hc pl).imp_right (.imp_right fun ⟨a, hpl, hnot, _⟩ => ⟨a, hpl, hnot⟩)
  have hbelow : l.Allows (Permits cs) d' := by
    refine Allows.change h.below fun pl => ?_
    exact (hc pl).imp_right (.imp_right fun ⟨a, hpl, _, hp⟩ => ⟨a, hpl, hp⟩)
  refine ⟨h.way, h.small, hbelow, fun hne k => (h.directories hne k).mono hk,
    fun id c hid k hrows => ?_, fun hne => ?_⟩
  · have hlt : id < cs.length := (List.getElem?_eq_some_iff.1 hid).1
    exact hsettled (a := .part k id) hlt (l.place_part k id) (h.parts id c hid k hrows)
  · exact hsettled (a := .checkpoint) trivial l.place_checkpoint (h.checkpoint hne)

/-- Directories may be added on the way to the tables. -/
theorem Keeps.grown (h : l.Keeps cs d) (hg : Grown l.OnWay d d') : l.Keeps cs d' := by
  refine h.change hg.keepsDirectories fun pl => ?_
  rcases grown_cases hg pl with he | ⟨hroot, -, -⟩ | ⟨a, ha, rfl, hdir⟩
  · exact .inl he
  · exact .inr (.inl (h.way pl hroot))
  · refine .inr (.inr ⟨a, rfl, ?_, fun node hnode => ?_⟩)
    · rcases ha with rfl | ⟨k, rfl⟩ <;> exact id
    · rw [hdir] at hnode
      rcases ha with rfl | ⟨k, rfl⟩ <;> exact (Option.some.inj hnode).symm

/-- A part that is of no use is not of a commit. -/
theorem Keeps.le_of_isStale (h : l.Keeps cs d) {id : Nat}
    (hstale : PartTable.isStale (checkpointOf cs).batches (PartTable.partName id) = true) :
    cs.length ≤ id := by
  refine Nat.le_of_not_lt fun hlt => ?_
  have hsmall := h.small
  rw [PartTable.isStale_partName (by omega), contains_checkpointOf.2 hlt] at hstale
  cases hstale

/-- What is not committed may be discarded. -/
theorem Keeps.pruned (h : l.Keeps cs d)
    (hp : PartTable.Pruned (l.StaleAt (checkpointOf cs).batches d) d d') : l.Keeps cs d' := by
  refine h.change hp.keepsDirectories fun pl => ?_
  rcases Allows.pruned_cases h.below hp pl with he | ⟨hnone, hgone⟩
  · exact .inl he
  · have hnothing : ∀ a node, d'.get? pl = some node → Permits cs a node := by
      intro a node hnode
      rw [hnone] at hnode
      cases hnode
    rcases hgone with ⟨k, id, node, rfl, -, hstale⟩ | ⟨k, id, rfl⟩
    · have hle := h.le_of_isStale hstale
      exact .inr (.inr ⟨.part k id, rfl, Nat.not_lt_of_le hle, hnothing _⟩)
    · exact .inr (.inr ⟨.unfinished k id, rfl, fun hf => hf, hnothing _⟩)

/-- Drafts of the next batch may come and go. -/
theorem Keeps.drafted (h : l.Keeps cs d) (hs : SameBut (l.Draft cs.length) d d') :
    l.Keeps cs d' := by
  refine h.change hs.keepsDirectories fun pl => ?_
  rcases hs pl with he | ⟨hdraft, -, hdir⟩
  · exact .inl he
  · have hfile : ∀ node, d'.get? pl = some node → ∃ content, node = .file content := by
      intro node hnode
      cases node with
      | file content => exact ⟨content, rfl⟩
      | directory => exact absurd hnode hdir
    refine .inr (.inr ?_)
    cases hdraft with
    | unfinished k =>
      exact ⟨.unfinished k cs.length, rfl, fun hf => hf, fun node hnode =>
        ⟨hfile node hnode, Nat.le_refl _⟩⟩
    | part k =>
      refine ⟨.part k cs.length, rfl, Nat.lt_irrefl _, fun node hnode => ?_⟩
      refine ⟨hfile node hnode, Nat.le_refl _, fun c hc => ?_⟩
      rw [List.getElem?_eq_none (Nat.le_refl _)] at hc
      cases hc
    | checkpoint => exact ⟨.unfinishedCheckpoint, rfl, fun hf => hf, hfile⟩

/-- When the parts of a batch are there, the checkpoint commits it. -/
theorem Keeps.commit (h : l.Keeps cs d) (hn : cs.length < 0x10000000000000000)
    (hdirs : ∀ k, d.HasDirectory (l.table k).directory) {c : Commit}
    (hparts : ∀ k, c.outcome.rows k ≠ [] → d.read ((l.table k).partPath cs.length) =
      .ok (Rows.render (c.outcome.rows k)).toUTF8)
    (hbare : c.outcome.events = [] → l.partFile? d' .metrics cs.length = none)
    (hw : Written l.checkpoint (checkpointOf (cs ++ [c])).render.toUTF8 d d') :
    l.Keeps (cs ++ [c]) d' := by
  have hlast : (cs ++ [c])[cs.length]? = some c := List.getElem?_concat_length
  refine ⟨h.way, ?_, fun pl node hb hg => ?_, fun _ k => (hdirs k).mono hw.keepsDirectories,
    fun id c' hid k hrows => ?_, fun _ => hw.read⟩
  · rw [List.length_append, List.length_singleton]
    omega
  · by_cases h1 : pl = l.placeOf .checkpoint
    · subst h1
      rw [← l.place_checkpoint, hw.file] at hg
      exact ⟨.checkpoint, rfl, by simp, _, (Option.some.inj hg).symm⟩
    · by_cases h2 : pl = l.placeOf .unfinishedCheckpoint
      · subst h2
        rw [← l.place_unfinishedCheckpoint, hw.temporary] at hg
        cases hg
      · have hsame := get?_of_saved hw h1 h2
        obtain ⟨a, rfl, hp⟩ := h.below pl node hb (hsame ▸ hg)
        refine ⟨a, rfl, ?_⟩
        cases a with
        | part k id =>
          obtain ⟨⟨content, rfl⟩, hle, hevents⟩ := hp
          refine ⟨⟨content, rfl⟩, ?_, fun c' hc' hk hnone => ?_⟩
          · rw [List.length_append]
            omega
          · rcases Nat.lt_or_eq_of_le hle with hlt | rfl
            · rw [List.getElem?_append_left hlt] at hc'
              exact hevents c' hc' hk hnone
            · rw [hlast] at hc'
              obtain rfl := Option.some.inj hc'
              have hfile := hbare hnone
              subst hk
              rw [partFile?, file?_of_get? hg] at hfile
              cases hfile
        | checkpoint => exact absurd rfl h1
        | unfinishedCheckpoint => exact absurd rfl h2
        | directory k => exact hp
        | system => exact hp
        | unfinished k id =>
          refine ⟨hp.1, Nat.le_trans hp.2 ?_⟩
          rw [List.length_append]
          exact Nat.le_add_right _ _
  · apply read_part_of_saved hw
    have hle : id < (cs ++ [c]).length := (List.getElem?_eq_some_iff.1 hid).1
    rw [List.length_append, List.length_singleton] at hle
    rcases Nat.lt_succ_iff_lt_or_eq.1 hle with hlt | rfl
    · rw [List.getElem?_append_left hlt] at hid
      exact h.parts id c' hid k hrows
    · rw [hlast] at hid
      obtain rfl := Option.some.inj hid
      exact hparts k hrows

/-! ### What is read -/

theorem Keeps.storedAt (h : l.Keeps cs d) : (checkpointOf cs).StoredAt l.checkpoint d := by
  by_cases hne : cs = []
  · subst hne
    refine .inr ⟨rfl, fun k hk => ?_⟩
    obtain ⟨-, node, hg, -⟩ := inspect_ok hk
    rw [l.place_checkpoint] at hg
    exact absurd rfl (h.permits hg).1
  · exact .inl (h.checkpoint hne)

theorem Keeps.lt_of_mem_batches (h : l.Keeps cs d) {id : Nat}
    (hid : id ∈ (checkpointOf cs).batches.items) : id < 0x10000000000000000 := by
  have hlt := contains_checkpointOf.1 (Ascending.contains_iff.2 hid)
  have hsmall := h.small
  omega

/-- The checkpoint that is loaded is that of the commits. -/
theorem Keeps.load (h : l.Keeps cs d) (s : Surroundings) :
    (Checkpoint.load l.checkpoint).outcome s d = (.ok (checkpointOf cs), d) :=
  Checkpoint.load_of_storedAt h.storedAt fun _ => h.lt_of_mem_batches

/-- A table is a directory, or there is nothing at its place. -/
theorem Keeps.exists_names (h : l.Keeps cs d) (k : TableKind) :
    ∃ names, (l.table k).Names d names :=
  Allows.exists_names h.below fun _ hnode => hnode

/-- The tables in which no part is left of an attempt that failed: there is an entry for every
batch, and a batch without events has no part in the metrics. -/
def Own (k : TableKind) : Prop := k = .entries ∨ k = .metrics

/-- That in a table every part of a committed batch is there for rows of that batch. -/
def Owns (l : Layout) (cs : List Commit) (d : Disk) (k : TableKind) : Prop :=
  ∀ id c, cs[id]? = some c → ∀ node, d.get? (l.placeOf (.part k id)) = some node →
    c.outcome.rows k ≠ []

theorem Keeps.owns (h : l.Keeps cs d) {k : TableKind} (hk : Own k) : l.Owns cs d k := by
  intro id c hc node hg
  obtain ⟨-, -, hevents⟩ := h.permits hg
  rcases hk with rfl | rfl
  · exact List.cons_ne_nil _ _
  · exact fun hnil => hevents c hc rfl (List.map_eq_nil_iff.1 hnil)

/-- The batches with rows in a table. -/
def filled (k : TableKind) (cs : List Commit) : List Nat :=
  (List.range cs.length).filter fun id => cs[id]?.any fun c => !(c.outcome.rows k).isEmpty

theorem mem_filled {k : TableKind} {id : Nat} :
    id ∈ filled k cs ↔ ∃ c, cs[id]? = some c ∧ c.outcome.rows k ≠ [] := by
  unfold filled
  rw [List.mem_filter, List.mem_range, Option.any_eq_true]
  constructor
  · rintro ⟨-, c, hc, hrows⟩
    exact ⟨c, hc, by simpa using hrows⟩
  · rintro ⟨c, hc, hrows⟩
    exact ⟨(List.getElem?_eq_some_iff.1 hc).1, c, hc, by simpa using hrows⟩

/-- The committed batches that a table has names for are those with rows in it. -/
theorem Keeps.mem_names_iff (h : l.Keeps cs d) {k : TableKind} (hk : l.Owns cs d k)
    {names : List String} (hnames : (l.table k).Names d names) {id : Nat} :
    id ∈ filled k cs ↔ (checkpointOf cs).batches.contains id = true ∧
      ∃ name ∈ names, PartTable.partId? name = some id := by
  rw [contains_checkpointOf, mem_filled]
  constructor
  · rintro ⟨c, hc, hrows⟩
    have hlt : id < cs.length := (List.getElem?_eq_some_iff.1 hc).1
    have hsmall := h.small
    have hdir := h.directories (List.ne_nil_of_length_pos (by omega)) k
    refine ⟨hlt, PartTable.partName id, ?_, PartTable.partId?_partName (by omega)⟩
    rw [hnames.unique (.inl ⟨hdir, rfl⟩)]
    obtain ⟨-, hg⟩ := read_ok_iff.1 (h.parts id c hc k hrows)
    rw [PartTable.place_partPath] at hg
    exact mem_children_iff.2 ⟨_, hg⟩
  · rintro ⟨hlt, name, hname, hid⟩
    obtain ⟨node, hg⟩ := Allows.of_name h.below hnames hname hid
    exact ⟨_, List.getElem?_eq_getElem hlt, hk id _ (List.getElem?_eq_getElem hlt) _ hg⟩

/-- Where rows are read back part by part, a table shows those of the commits. -/
theorem Keeps.shows (h : l.Keeps cs d) {k : TableKind} (hk : l.Owns cs d k) {α : Type}
    {parse? : String → Option α} {items : Commit → List α}
    (hitems : ∀ c ∈ cs, ∀ path, Rows.ofBytes path (Rows.decoded parse?)
      (Rows.render (c.outcome.rows k)).toUTF8 = .ok (items c)) :
    (l.table k).Shows parse? (checkpointOf cs).batches d (cs.flatMap items) := by
  obtain ⟨names, hnames⟩ := h.exists_names k
  refine ⟨names, filled k cs, fun id => (cs[id]?.map items).getD [], hnames,
    List.pairwise_lt_range.filter _, fun id => h.mem_names_iff hk hnames, fun id hid => ?_, ?_⟩
  · obtain ⟨c, hc, hrows⟩ := mem_filled.1 hid
    rw [PartTable.rowsIn, h.parts id c hc k hrows]
    dsimp only
    rw [hc]
    exact hitems c (List.mem_of_getElem? hc) _
  · rw [← flatMap_range_getElem?]
    refine (flatMap_filter_of_nil fun id hid hempty => ?_).symm
    have hlt : id < cs.length := List.mem_range.1 hid
    have hc : cs[id]? = some cs[id] := List.getElem?_eq_getElem hlt
    have hrows : cs[id].outcome.rows k = [] := by
      rw [hc] at hempty
      simpa using hempty
    have hnone := hitems cs[id] (List.getElem_mem hlt) l.root
    rw [hrows] at hnone
    rw [hc]
    exact (Except.ok.inj hnone).symm

/-- The metrics show the history. -/
theorem Keeps.shows_history (h : l.Keeps cs d) :
    l.metrics.Shows Event.parse? (checkpointOf cs).batches d (historyOf cs) := by
  refine h.shows (h.owns (.inr rfl)) fun c _ path => ?_
  rw [BatchOutcome.rows, c.events_outcome]
  exact BatchOutcome.ofBytes_progressEvents ..

/-- The entries show one entry for each commit. -/
theorem Keeps.shows_entries (h : l.Keeps cs d) :
    l.entries.Shows Entry.parse? (checkpointOf cs).batches d
      (cs.flatMap fun c => [c.outcome.entry]) := by
  refine h.shows (h.owns (.inl rfl)) fun c _ path => ?_
  rw [BatchOutcome.rows, c.entry_outcome]
  exact BatchOutcome.ofBytes_progress ..

end Layout

/-- The history is what the entries are aggregated to. -/
theorem aggregate_entries (cs : List Commit) :
    aggregate (cs.flatMap fun c => [c.outcome.entry]) = historyOf cs := by
  induction cs with
  | nil => rfl
  | cons c cs ih =>
    have hevents : aggregate [c.outcome.entry] = c.outcome.events := rfl
    rw [List.flatMap_cons, aggregate_append, ih, hevents]
    rfl

end Quarantine
