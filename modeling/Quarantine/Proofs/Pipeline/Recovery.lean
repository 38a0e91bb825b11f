import Quarantine.Proofs.Pipeline.Workload
import Quarantine.Proofs.Storage.Success

/-!
# Opening and stepping where a workload stands

Opening a root that stands at `n` files gives a runner that knows these files, or leaves the root
at `n`.  A step of such a runner takes the root to `n + 1` files or leaves it at `n`.
-/

namespace Quarantine.Workload

open Quarantine.Disk Quarantine.Job Quarantine.Json

variable {w : Workload} {n : Nat} {d d' : Disk}

/-! ## Runners -/

/-- What is left of the queue of a runner: files that are committed may still be in it. -/
def Queued (w : Workload) (n : Nat) (src : Source) : Prop :=
  src = .directory w.input none ∨
    ∃ j, j ≤ n ∧ src = .directory w.input (some (w.names.drop j))

/-- That a runner has the first `n` files behind it. -/
structure Knows (w : Workload) (n : Nat) (r : Runner) : Prop where
  rules : r.rules = w.rules
  layout : r.layout = w.layout
  time : r.options.time = some w.time
  frozen : r.frozen = none
  checkpoint : r.checkpoint = w.checkpointAt n
  history : r.history = w.history n
  source : w.Queued n r.source

/-- That the directories of all tables are there. -/
def Prepared (w : Workload) (d : Disk) : Prop :=
  ∀ k, d.HasDirectory (w.layout.table k).directory

theorem Prepared.mono (h : w.Prepared d) (hk : KeepsDirectories d d') : w.Prepared d' :=
  fun k => (h k).mono hk

/-! ## Opening -/

theorem flatMap_events (h : n ≤ w.files.length) :
    ((List.range n).flatMap fun id => (w.outcomeAt id "").events) = w.history n := by
  induction n with
  | zero => rfl
  | succ n ih =>
    obtain ⟨f, rest, hdrop⟩ : ∃ f rest, w.files.drop n = f :: rest :=
      List.exists_cons_of_ne_nil fun he => by
        have := List.drop_eq_nil_iff.1 he
        omega
    rw [List.range_succ, List.flatMap_append, ih (by omega), List.flatMap_singleton,
      history_succ hdrop ""]

/-- The batches with rows in a table. -/
def filled (w : Workload) (k : TableKind) (n : Nat) : List Nat :=
  (List.range n).filter fun id => !((w.outcomeAt id "").rows k).isEmpty

theorem mem_filled {k : TableKind} {id : Nat} :
    id ∈ w.filled k n ↔ id < n ∧ (w.outcomeAt id "").rows k ≠ [] := by
  simp [filled]

theorem Stands.read_part (h : w.Stands n d) {k : TableKind} (hk : k ≠ .entries) {id : Nat}
    (hid : id ∈ w.filled k n) :
    d.read ((w.layout.table k).partPath id) = .ok (w.partOf k id "") := by
  obtain ⟨hlt, hrows⟩ := mem_filled.1 hid
  obtain ⟨entryId, hparts⟩ := h.parts id hlt
  have hsame : (w.outcomeAt id entryId).rows k = (w.outcomeAt id "").rows k :=
    BatchOutcome.rows_after_eq _ _ _ _ _ _ hk
  have hread := hparts k (hsame ▸ hrows)
  rw [partOf, hsame] at hread
  exact hread

/-- A table is a directory, or there is nothing at its place. -/
theorem Stands.exists_names (h : w.Stands n d) (k : TableKind) :
    ∃ names, (w.layout.table k).Names d names :=
  Layout.Allows.exists_names h.below fun _ hnode => hnode

/-- The committed batches that a table has names for are those with rows in it. -/
theorem Stands.mem_names_iff (hw : w.Sound) (h : w.Stands n d) {k : TableKind}
    (hk : k ≠ .entries) {names : List String} (hnames : (w.layout.table k).Names d names)
    {id : Nat} : id ∈ w.filled k n ↔ (w.checkpointAt n).batches.contains id = true ∧
      ∃ name ∈ names, PartTable.partId? name = some id := by
  rw [contains_checkpointAt h.bounded]
  constructor
  · intro hid
    have hlt := (mem_filled.1 hid).1
    obtain ⟨hl, hg⟩ := read_ok_iff.1 (h.read_part hk hid)
    have hsmall := hw.small_of_lt (Nat.lt_of_lt_of_le hlt h.bounded)
    refine ⟨hlt, PartTable.partName id, ?_, PartTable.partId?_partName hsmall⟩
    rcases hnames with ⟨-, rfl⟩ | ⟨hnone, -⟩
    · rw [PartTable.place_partPath] at hg
      exact Disk.mem_children_iff.2 ⟨_, hg⟩
    · obtain ⟨p, name, hn, hdir⟩ := w.layout.exists_directory_table k
      rw [PartTable.partPath, hdir] at hl
      have hthere := hasDirectory_of_locate hn (PartTable.isName_partName id) hl
      rw [← hdir] at hthere
      exact absurd (hasDirectory_iff.1 hthere) (hnone _)
  · rintro ⟨hlt, name, hname, hid⟩
    obtain ⟨node, hg⟩ := Layout.Allows.of_name h.below hnames hname hid
    obtain ⟨-, -, entryId, hrows, -⟩ := h.permits hg
    exact mem_filled.2 ⟨hlt, (BatchOutcome.rows_ne_nil_iff _ _ _ _ _ _ _).1 hrows⟩

/-- Where rows are read back part by part, a table shows those of the committed files. -/
theorem Stands.shows (hw : w.Sound) (h : w.Stands n d) {k : TableKind} (hk : k ≠ .entries)
    {α : Type} {parse? : String → Option α} {items : Nat → List α}
    (hitems : ∀ id path, id < n →
      Rows.ofBytes path (Rows.decoded parse?) (w.partOf k id "") = .ok (items id)) :
    (w.layout.table k).Shows parse? (w.checkpointAt n).batches d ((List.range n).flatMap items) := by
  obtain ⟨names, hnames⟩ := h.exists_names k
  refine ⟨names, w.filled k n, items, hnames, List.pairwise_lt_range.filter _,
    fun id => h.mem_names_iff hw hk hnames, fun id hid => ?_, ?_⟩
  · rw [PartTable.rowsIn, h.read_part hk hid]
    exact hitems id _ (mem_filled.1 hid).1
  · refine (flatMap_filter_of_nil fun id hid hempty => ?_).symm
    have hrows : (w.outcomeAt id "").rows k = [] := by simpa using hempty
    have hpart := hitems id w.input (List.mem_range.1 hid)
    rw [partOf, hrows] at hpart
    exact (Except.ok.inj hpart).symm

/-- The history that is read is that of the committed files. -/
theorem Stands.shows_history (hw : w.Sound) (h : w.Stands n d) :
    w.layout.metrics.Shows Event.parse? (w.checkpointAt n).batches d (w.history n) := by
  rw [← flatMap_events h.bounded]
  exact h.shows (k := .metrics) hw (by decide) fun id path _ =>
    BatchOutcome.ofBytes_events _ _ _ _ _ _

theorem Stands.storedAt (h : w.Stands n d) :
    (w.checkpointAt n).StoredAt w.layout.checkpoint d := by
  by_cases hn : 0 < n
  · exact .inl (h.checkpoint hn)
  · obtain rfl : n = 0 := by omega
    refine .inr ⟨rfl, fun k hk => ?_⟩
    obtain ⟨-, node, hg, -⟩ := inspect_ok hk
    rw [w.layout.place_checkpoint] at hg
    exact absurd (h.permits hg).1 (Nat.lt_irrefl 0)

theorem lt_of_mem_batches (hw : w.Sound) (h : w.Stands n d) {id : Nat}
    (hid : id ∈ (w.checkpointAt n).batches.items) : id < 0x10000000000000000 := by
  have hlt := (contains_checkpointAt h.bounded).1 (Ascending.contains_iff.2 hid)
  exact hw.small_of_lt (Nat.lt_of_lt_of_le hlt h.bounded)

/-- Opens the root for the files, with selection from the history of each batch. -/
@[irreducible]
def opening (w : Workload) (partitions : Nat) : Job Runner :=
  Runner.open? w.rules (.ofDirectory w.input) w.layout ⟨partitions, false, some w.time⟩

/-- Opening leaves the root where it stands, and a runner that is opened knows where that is. -/
theorem ensures_open (hw : w.Sound) (h : w.Stands n d) (s : Surroundings) (partitions : Nat) :
    Job.Ensures s (w.Stands n) (fun r d' => w.Stands n d' ∧ w.Knows n r ∧ w.Prepared d')
      (w.opening partitions) d := by
  unfold opening
  refine (Layout.ensures_ensure (Q := fun _ d₁ => w.Stands n d₁ ∧ w.Prepared d₁)
    (fun _ => h.grown hw) fun _ hg hall => ⟨h.grown hw hg, hall⟩).bind ?_
  rintro _ d₁ ⟨h₁, hprep⟩
  refine (Checkpoint.ensures_load (Q := fun c d' => c = w.checkpointAt n ∧ d' = d₁) h₁.storedAt
    (fun id => lt_of_mem_batches hw h₁) h₁ ⟨rfl, rfl⟩).bind ?_
  rintro c d' ⟨rfl, rfl⟩
  refine (Layout.ensures_discardAll (Q := fun _ d₂ => w.Stands n d₂ ∧ w.Prepared d₂) hprep
    (fun d₂ => h₁.pruned hw) fun d₂ hp _ => ⟨h₁.pruned hw hp,
      hprep.mono hp.keepsDirectories⟩).bind ?_
  rintro _ d₂ ⟨h₂, hprep₂⟩
  refine ((h₂.shows_history hw).ensures (Q := fun history d' => history = w.history n ∧ d' = d₂)
    h₂ ⟨rfl, rfl⟩).bind ?_
  rintro history d' ⟨rfl, rfl⟩
  exact ensures_pure ⟨h₂, ⟨rfl, rfl, rfl, rfl, rfl, rfl, .inl rfl⟩, hprep₂⟩

/-! ## The queue -/

theorem no_input_kind {name : String}
    (h : (Path.extensionOf name).any Source.inputExtensions.contains = false) (kind : Kind) :
    Source.isInput name kind = false := by
  rw [Source.isInput, h, Bool.and_false]

/-- No file that a run keeps directly under its root looks like an input. -/
theorem Permits.not_input {a : Slot} {node : Node} {name : String} (hp : w.Permits n a node)
    (ha : a.names = [name]) : Source.isInput name node.kind = false := by
  cases a with
  | directory | system =>
    obtain rfl : node = .directory := hp
    rfl
  | part k id | unfinished k id =>
    have hlength := congrArg List.length ha
    have hpos := List.length_pos_iff.2 k.names_ne_nil
    simp only [Slot.names, List.length_append, List.length_singleton] at hlength
    omega
  | checkpoint =>
    obtain ⟨-, rfl⟩ := hp
    obtain rfl := List.singleton_inj.1 ha
    exact no_input_kind (by decide) _
  | unfinishedCheckpoint =>
    obtain ⟨content, rfl⟩ := hp
    obtain rfl := List.singleton_inj.1 ha
    exact no_input_kind (by decide) _

/-- The input files are still those of the start. -/
theorem Stands.wanted (hw : w.Sound) (h : w.Stands n d) {found : List (String × Kind)}
    (hl : d.list w.input = .ok found) : Source.wanted found = w.names := by
  obtain ⟨-, rfl⟩ := list_ok hl
  obtain ⟨found, hstart, hnames⟩ := hw.listed
  obtain ⟨⟨-, hdir⟩, rfl⟩ := list_ok hstart
  rw [names, ← hnames]
  refine Source.wanted_eq_of_inputs fun name => ?_
  by_cases hb : w.layout.root.Below (w.input.place ++ [name])
  · -- the input directory is the root, or is not under it
    have hstart := hw.empty.nothing _ hb
    refine .inr ?_
    rintro node (hg | hg)
    · obtain ⟨a, ha, hp⟩ := h.below _ node hb hg
      obtain ⟨front, last, hlast⟩ :=
        (List.eq_nil_or_concat a.names).resolve_left a.names_ne_nil
      rw [List.concat_eq_append] at hlast
      rw [Layout.placeOf, hlast, ← List.append_assoc] at ha
      obtain ⟨hfront, hname⟩ := List.append_inj' ha (by simp only [List.length_singleton])
      have hnil : front = [] := by
        refine Decidable.byContradiction fun hne => ?_
        rw [hw.empty.nothing _ ⟨front, hne, hfront⟩] at hdir
        cases hdir
      rw [hnil, List.nil_append, ← hname] at hlast
      exact hp.not_input hlast
    · rw [hstart] at hg
      cases hg
  · refine (h.outside _ hb).imp_right ?_
    rintro ⟨hnone, hd⟩ node (hg | hg)
    · obtain rfl := Option.some.inj (hd.symm.trans hg)
      rfl
    · rw [hnone] at hg
      cases hg

theorem Stands.read_start (hw : w.Sound) (h : w.Stands n d) {p : Path} {content : ByteArray}
    (hr : w.start.read p = .ok content) : d.read p = .ok content := by
  obtain ⟨hl, hg⟩ := read_ok_iff.1 hr
  refine read_ok_iff.2 ⟨locate_mono (h.keepsDirectories hw) hl, ?_⟩
  have hb : ¬ w.layout.root.Below p.place := by
    intro hb
    rw [hw.empty.nothing _ hb] at hg
    cases hg
  rcases h.outside _ hb with he | ⟨hnone, -⟩
  · rw [he, hg]
  · rw [hnone] at hg
    cases hg

/-- An input file holds the records that it held at the start. -/
theorem Stands.fileHolds (hw : w.Sound) (h : w.Stands n d) {f : String × List Record}
    (hf : f ∈ w.files) : Source.FileHolds d (w.input.join f.1) f.2 :=
  (hw.holds f hf).mono fun _ hr => h.read_start hw hr

theorem Sound.nodup_names (hw : w.Sound) : w.names.Nodup := by
  obtain ⟨found, hl, hnames⟩ := hw.listed
  obtain ⟨-, rfl⟩ := list_ok hl
  rw [names, ← hnames]
  exact Source.nodup_wanted _ _

theorem isProcessed_checkpointAt {name : String} :
    (w.checkpointAt n).isProcessed name = true ↔ name ∈ w.names.take n :=
  Checkpoint.isProcessed_after

/-- What is in the queue and not committed is what comes after the first `n` files. -/
theorem dropWhile_drop (hw : w.Sound) {j : Nat} (hj : j ≤ n) :
    (w.names.drop j).dropWhile (w.checkpointAt n).isProcessed = w.names.drop n :=
  Source.dropWhile_processed (fun _ => isProcessed_checkpointAt) hw.nodup_names hj

theorem filter_isProcessed (hw : w.Sound) :
    (w.names.filter fun name => !(w.checkpointAt n).isProcessed name) = w.names.drop n :=
  Source.filter_processed (fun _ => isProcessed_checkpointAt) hw.nodup_names

/-- The queue of a runner, without the files that are committed. -/
theorem dropWhile_queue (hw : w.Sound) (h : w.Stands n d) {pending : Option (List String)}
    (hq : w.Queued n (.directory w.input pending)) {names : List String}
    (hqueue : Source.Queue w.input (w.checkpointAt n) d pending names) :
    names.dropWhile (w.checkpointAt n).isProcessed = w.names.drop n := by
  rcases hqueue with rfl | ⟨rfl, found, hl, rfl⟩
  · rcases hq with hq | ⟨j, hj, hq⟩
    · cases hq
    · cases hq
      exact dropWhile_drop hw hj
  · rw [h.wanted hw hl, filter_isProcessed hw]
    exact dropWhile_drop hw (Nat.le_refl n)

/-- What the source of a runner can give: the next file with its records, or nothing at the end,
or an error. -/
def Gives (w : Workload) (n : Nat) (src : Source) : Except Failure (Option InputBatch) → Prop
  | .error _ => True
  | .ok none => w.files.drop n = []
  | .ok (some batch) => ∃ f rest, w.files.drop n = f :: rest ∧ batch = ⟨f.1, f.2⟩ ∧
      src = .directory w.input (some (w.names.drop n))

theorem gives_of_follows (hw : w.Sound) (h : w.Stands n d) {src src' : Source}
    (hq : w.Queued n src) {result : Except Failure (Option InputBatch)}
    (hf : Source.Follows (w.checkpointAt n) d src result src') :
    w.Queued n src' ∧ w.Gives n src' result := by
  have hdrop := w.drop_names n
  have hqueued : w.Queued n (.directory w.input (some (w.names.drop n))) :=
    .inr ⟨n, Nat.le_refl n, rfl⟩
  have hinput {path : Path} {pending : Option (List String)}
      (hq : w.Queued n (.directory path pending)) : path = w.input := by
    rcases hq with hq | ⟨j, -, hq⟩ <;> cases hq <;> rfl
  cases hf with
  | memoryEnd => rcases hq with hq | ⟨j, -, hq⟩ <;> cases hq
  | memory => rcases hq with hq | ⟨j, -, hq⟩ <;> cases hq
  | unlisted => exact ⟨hq, trivial⟩
  | finished queue processed =>
    obtain rfl := hinput hq
    rw [dropWhile_queue hw h hq queue] at processed
    refine ⟨?_, List.map_eq_nil_iff.1 (hdrop ▸ processed)⟩
    rw [← processed]
    exact hqueued
  | unread queue first =>
    obtain rfl := hinput hq
    rw [dropWhile_queue hw h hq queue] at first
    rw [← first]
    exact ⟨hqueued, trivial⟩
  | read queue first holds =>
    obtain rfl := hinput hq
    rw [dropWhile_queue hw h hq queue] at first
    rw [← first]
    refine ⟨hqueued, ?_⟩
    rw [hdrop] at first
    obtain ⟨f, rest, hfiles, rfl, -⟩ := List.map_eq_cons_iff.1 first
    have hmem : f ∈ w.files := List.mem_of_mem_drop (hfiles ▸ List.mem_cons_self)
    rw [(h.fileHolds hw hmem).eq holds]
    exact ⟨f, rest, hfiles, rfl, rfl⟩

/-! ## Steps -/

/-- That a disk stands at `n` files and a runner knows it. -/
structure Ready (w : Workload) (n : Nat) (r : Runner) (d : Disk) : Prop where
  stands : w.Stands n d
  knows : w.Knows n r
  prepared : w.Prepared d

theorem outcome_eq {r : Runner} (hk : w.Knows n r) {f : String × List Record}
    {rest : List (String × List Record)} (hdrop : w.files.drop n = f :: rest)
    (entryId : String) : r.outcome entryId w.time ⟨f.1, f.2⟩ = w.outcomeAt n entryId := by
  have hfailed : r.failedWith = fun events => .ofEvents (w.history n ++ events) := by
    funext events
    rw [Runner.failedWith, hk.frozen, hk.history]
    rfl
  rw [Runner.outcome, hk.rules, hfailed, BatchOutcome.of_eq_after, outcomeAt,
    recordsAt_of_drop hdrop]

/-- Storing the next batch leaves the root where it stands, with its parts in the end. -/
theorem ensures_store {s : Surroundings} {r : Runner} (hw : w.Sound) (h : w.Stands n d)
    (hprep : w.Prepared d) (hk : w.Knows n r) (hn : n < w.files.length) (entryId : String) :
    Job.Ensures s (fun d' => w.Stands n d' ∧ w.Prepared d') (fun _ d' => w.Stands n d' ∧
      w.Prepared d' ∧ ∀ k, (w.outcomeAt n entryId).rows k ≠ [] →
        d'.read ((w.layout.table k).partPath n) = .ok (w.partOf k n entryId))
      (r.store n (w.outcomeAt n entryId)) d := by
  refine Runner.ensures_store (I := fun d' => w.Stands n d' ∧ w.Prepared d') ⟨h, hprep⟩
    (fun _ h => h) ?_ ?_ ?_
  · rintro k d₀ d₁ d' hne ⟨h₀, hprep₀⟩ hg hp
    rw [hk.layout] at hg hp
    exact ⟨(h₀.grown hw hg).partly (.inr ⟨k, n, Nat.le_refl n, rfl⟩) hp,
      hprep₀.mono (hg.keepsDirectories.trans hp.keepsDirectories)⟩
  · rintro k d₀ d₁ d' hne ⟨h₀, hprep₀⟩ hg hwritten
    rw [hk.layout] at hg hwritten
    exact ⟨(h₀.grown hw hg).written hn hne hwritten,
      hprep₀.mono (hg.keepsDirectories.trans hwritten.keepsDirectories)⟩
  · rintro d' ⟨h', hprep'⟩ hparts
    rw [hk.layout] at hparts
    exact ⟨h', hprep', hparts⟩

/-- Running the next batch commits it or leaves the root where it stands. -/
theorem ensures_runBatch {s : Surroundings} {r : Runner} (hw : w.Sound) (h : w.Ready n r d)
    {f : String × List Record} {rest : List (String × List Record)}
    (hdrop : w.files.drop n = f :: rest) :
    Job.Ensures s (fun d' => w.Stands n d' ∧ w.Prepared d')
      (fun x d' => w.Ready (n + 1) x.2 d' ∧ x.2.source = r.source) (r.runBatch ⟨f.1, f.2⟩) d := by
  obtain ⟨hstands, hk, hprep⟩ := h
  have hn := lt_of_drop hdrop
  refine Runner.ensures_runBatch ⟨hstands, hprep⟩ fun time entryId htime => ?_
  obtain rfl := htime w.time hk.time
  have hnext : r.checkpoint.next = n := by
    rw [hk.checkpoint, next_checkpointAt hstands.bounded]
  rw [outcome_eq hk hdrop, hnext]
  refine (ensures_store hw hstands hprep hk hn entryId).mono (fun _ h => h) ?_
  rintro _ d₁ ⟨h₁, hprep₁, hparts⟩
  have hcommit : (r.committed (w.outcomeAt n entryId) w.time ⟨f.1, f.2⟩).checkpoint =
      w.checkpointAt (n + 1) := by
    rw [checkpointAt_succ hdrop, ← hk.checkpoint, ← hnext]
    rfl
  have hknows : w.Knows (n + 1) (r.committed (w.outcomeAt n entryId) w.time ⟨f.1, f.2⟩) := by
    refine ⟨hk.rules, hk.layout, hk.time, hk.frozen, hcommit, ?_, ?_⟩
    · rw [history_succ hdrop entryId, ← hk.history]
      rfl
    · rcases hk.source with hq | ⟨j, hj, hq⟩
      · exact .inl hq
      · exact .inr ⟨j, Nat.le_succ_of_le hj, hq⟩
  rw [hcommit, hk.layout]
  refine Checkpoint.ensures_save (by decide) ?_ (fun d₂ d' hg hp => ?_)
    fun d₂ d' hg hwritten => ?_
  · show w.layout.checkpoint.temporary.place ≠ w.layout.checkpoint.place
    rw [w.layout.place_unfinishedCheckpoint, w.layout.place_checkpoint]
    exact fun he => nomatch Layout.placeOf_inj.1 he
  · have hplace := w.layout.place_unfinishedCheckpoint
    rw [Layout.checkpoint] at hplace
    rw [hplace] at hp
    exact ⟨(h₁.grown_root hw hg).partly (.inl rfl) hp,
      hprep₁.mono (hg.keepsDirectories.trans hp.keepsDirectories)⟩
  · have h₂ := h₁.grown_root hw hg
    refine ⟨⟨h₂.commit hdrop entryId (fun k hrows => ?_) hwritten, hknows,
      hprep₁.mono (hg.keepsDirectories.trans hwritten.keepsDirectories)⟩, rfl⟩
    obtain ⟨hl, hfile⟩ := read_ok_iff.1 (hparts k hrows)
    refine read_ok_iff.2 ⟨locate_mono hg.keepsDirectories hl, ?_⟩
    rcases hg ((w.layout.table k).partPath n).place with he | ⟨-, hnone, -⟩
    · rw [he, hfile]
    · rw [hnone] at hfile
      cases hfile

/-- What a step leaves, by what it gives. -/
def Stepped (w : Workload) (n : Nat) (x : Except Failure (Option BatchReport) × Runner)
    (d : Disk) : Prop :=
  match x.1 with
  | .error _ => w.Ready n x.2 d
  | .ok none => w.Ready n x.2 d ∧ n = w.files.length
  | .ok (some _) => w.Ready (n + 1) x.2 d ∧ x.2.source.size = w.files.length - n

theorem ensures_step {s : Surroundings} {r : Runner} (hw : w.Sound) (h : w.Ready n r d) :
    Action.Ensures s (w.Stands n) (w.Stepped n) r.step d := by
  obtain ⟨hstands, hk, hprep⟩ := h
  have hsource {src : Source} (hq : w.Queued n src) : w.Knows n { r with source := src } :=
    ⟨hk.rules, hk.layout, hk.time, hk.frozen, hk.checkpoint, hk.history, hq⟩
  have hgives {src : Source} {result : Except Failure (Option InputBatch)}
      (hf : Source.Follows r.checkpoint d r.source result src) :
      w.Queued n src ∧ w.Gives n src result :=
    gives_of_follows hw hstands hk.source (hk.checkpoint ▸ hf)
  refine Runner.ensures_step hstands (fun e src hf => ?_) (fun src hf => ?_)
    fun batch src hf => ?_
  · exact ⟨hstands, hsource (hgives hf).1, hprep⟩
  · obtain ⟨hq, hend⟩ := hgives hf
    have hlength : w.files.length ≤ n := List.drop_eq_nil_iff.1 hend
    exact ⟨⟨hstands, hsource hq, hprep⟩, Nat.le_antisymm hstands.bounded hlength⟩
  · obtain ⟨hq, f, rest, hdrop, rfl, hsrc⟩ := hgives hf
    refine ⟨fun d' => w.Stands n d' ∧ w.Prepared d', fun d' hd' => ⟨hd'.1, fun e =>
      ⟨hd'.1, hsource hq, hd'.2⟩⟩, ?_⟩
    refine (ensures_runBatch hw ⟨hstands, hsource hq, hprep⟩ hdrop).mono (fun _ h => h) ?_
    rintro ⟨report, r'⟩ d' ⟨hready, hsame⟩
    refine ⟨hready, ?_⟩
    show r'.source.size = _
    rw [hsame, hsrc, Source.size, Option.getD_some, List.length_drop, length_names]

end Quarantine.Workload
