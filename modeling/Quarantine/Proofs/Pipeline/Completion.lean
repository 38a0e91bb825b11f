import Quarantine.Proofs.Pipeline.Recovery
import Quarantine.Proofs.Storage.Directories

/-!
# Runs without failures

A root is opened where it stands, and a runner that knows where takes it to the end of its files,
if nothing is refused.

    open  gives a runner where no file is on the way to the root
    step  gives a report while there are files, and nothing after the last one
    run   ends with all files committed

What can be in the way of an operation is a node of the wrong kind at its place, or a name that is
too long.  `Proper` rules both out for what an invariant allows at the slots of a root.
-/

namespace Quarantine

open Quarantine.Disk Quarantine.Job Quarantine.Json

variable {l : Layout} {d : Disk} {s : Surroundings} {r : Runner}

namespace Layout

variable {P : Slot → Node → Prop}

/-! ## What is in the way -/

/-- That what may be at slots is of their kinds, and that the numbers of parts are 64-bit
numbers. -/
structure Proper (P : Slot → Node → Prop) : Prop where
  kind : ∀ a node, P a node → node.kind = a.kind
  small : ∀ k id node, P (.part k id) node ∨ P (.unfinished k id) node →
    id ≤ 0x10000000000000000

theorem Allows.kind (h : l.Allows P d) (hP : Proper P) {a : Slot} {node : Node}
    (hg : d.get? (l.placeOf a) = some node) : node.kind = a.kind := hP.kind a node (h.of_get? hg)

theorem Allows.not_directory (h : l.Allows P d) (hP : Proper P) {a : Slot} (ha : a.kind = .file) :
    d.get? (l.placeOf a) ≠ some .directory :=
  fun hg => nomatch (h.kind hP hg).trans ha

theorem Allows.not_file (h : l.Allows P d) (hP : Proper P) {a : Slot} (ha : a.kind = .directory)
    (content : ByteArray) : d.get? (l.placeOf a) ≠ some (.file content) :=
  fun hg => nomatch (h.kind hP hg).trans ha

/-- What is of no use is files with short names. -/
theorem Allows.removable (h : l.Allows P d) (hP : Proper P) {k : TableKind}
    {committed : Ascending Nat} {name : String}
    (hname : (l.table k).Discarded committed d name) : (l.table k).Removable d name := by
  obtain ⟨node, hg⟩ := mem_children_iff.1 hname.2
  rcases h.of_child hg with ⟨id, rfl, hp⟩ | ⟨id, rfl, hp⟩
  · obtain ⟨content, rfl⟩ := Node.exists_content (hP.kind _ _ hp)
    have hshort := PartTable.utf8ByteSize_partName (hP.small k id _ (.inl hp))
    exact ⟨PartTable.isName_partName id, by unfold longestName; omega, content, hg⟩
  · obtain ⟨content, rfl⟩ := Node.exists_content (hP.kind _ _ hp)
    have hshort := PartTable.utf8ByteSize_temporaryName (hP.small k id _ (.inr hp))
    exact ⟨PartTable.isName_temporaryName id, by unfold longestName; omega, content, hg⟩

/-- Tables can be made where no file is on the way to their root. -/
theorem Allows.succeeds_ensure (h : l.Allows P d) (hP : Proper P)
    (hclear : d.Clear l.root.names) : Succeeds s l.ensure d := by
  have htable (k : TableKind) : d.Clear (l.table k).directory.names := by
    refine ⟨fun ns hns content hg => ?_, fun name hname => ?_⟩
    · rcases onWay_cases ⟨k, ns, hns, rfl⟩ with ⟨ms, hms, he⟩ | he | ⟨k', he⟩
      · exact hclear.free ms hms content (he ▸ hg)
      · exact h.not_file hP (a := .system) rfl content (he ▸ hg)
      · exact h.not_file hP (a := .directory k') rfl content (he ▸ hg)
    · rw [names_table] at hname
      rcases List.mem_append.1 hname with hname | hname
      · exact hclear.short name hname
      · have hshort : ∀ name ∈ k.names, name.utf8ByteSize ≤ longestName := by
          cases k <;> decide
        exact hshort name hname
  refine succeeds_forM (I := fun d' => ∀ k, d'.Clear (l.table k).directory.names) htable ?_
  intro t ht d' hd'
  obtain ⟨k, rfl⟩ := mem_tables ht
  refine ⟨succeeds_makeDirectories (hd' k), fun d'' h'' k' => ?_⟩
  obtain ⟨hgrown, -⟩ := walk_of_makeDirectories h''
  exact (hd' k').grown hgrown

/-- What is of no use is discarded from all tables if it can be removed. -/
theorem succeeds_discardAll {I : Disk → Prop} {committed : Ascending Nat} (hi : I d)
    (hdirs : ∀ d, I d → ∀ k, d.HasDirectory (l.table k).directory)
    (hremovable : ∀ d, I d → ∀ k name, (l.table k).Discarded committed d name →
      (l.table k).Removable d name)
    (hpruned : ∀ d d', I d → PartTable.Pruned (l.StaleAt committed d) d d' → I d') :
    Succeeds s (l.tables.forM fun t => discard (t.discardUncommitted committed)) d := by
  refine succeeds_forM (I := I) hi fun t ht d₁ h₁ => ?_
  obtain ⟨k, rfl⟩ := mem_tables ht
  refine ⟨succeeds_discard (PartTable.succeeds_discardUncommitted (hdirs d₁ h₁ k)
    (hremovable d₁ h₁ k)), fun d₂ h₂ => hpruned d₁ d₂ h₁ ?_⟩
  exact (ensures_discard (S := fun _ => True) (Q := fun _ d₂ =>
    PartTable.Pruned (l.StaleAt committed d₁) d₁ d₂)
    (PartTable.ensures_discardUncommitted _ (fun name hname => ⟨k, name, hname, rfl⟩)
      (fun _ _ => trivial) fun _ _ h _ => h)).of_outcome h₂

end Layout

namespace Runner

/-! ## Opening -/

/-- A root is opened where its tables can be made and what they hold is in order. -/
theorem succeeds_open_of {I : Disk → Prop} {c : Checkpoint} {history : List Event}
    {rules : RuleSet} {source : Source} {options : Options} (hensure : Succeeds s l.ensure d)
    (hgrown : ∀ d₁, Grown l.OnWay d d₁ → (∀ k, d₁.HasDirectory (l.table k).directory) → I d₁)
    (hload : ∀ d₁, I d₁ → (Checkpoint.load l.checkpoint).outcome s d₁ = (.ok c, d₁))
    (hdirs : ∀ d₁, I d₁ → ∀ k, d₁.HasDirectory (l.table k).directory)
    (hremovable : ∀ d₁, I d₁ → ∀ k name, (l.table k).Discarded c.batches d₁ name →
      (l.table k).Removable d₁ name)
    (hpruned : ∀ d₁ d₂, I d₁ → PartTable.Pruned (l.StaleAt c.batches d₁) d₁ d₂ → I d₂)
    (hshows : ∀ d₁, I d₁ → l.metrics.Shows Event.parse? c.batches d₁ history) :
    Succeeds s (open? rules source l options) d := by
  refine hensure.bind fun _ d₁ h₁ => ?_
  have hi : I d₁ := (Layout.ensures_ensure (S := fun _ => True) (Q := fun _ d₁ => I d₁)
    (fun _ _ => trivial) hgrown).of_outcome h₁
  refine succeeds_bind_of_outcome (hload d₁ hi) ?_
  refine (Layout.succeeds_discardAll hi hdirs hremovable hpruned).bind fun _ d₂ h₂ => ?_
  have hi₂ : I d₂ := (Layout.ensures_discardAll (S := fun _ => True) (Q := fun _ d₂ => I d₂)
    (hdirs d₁ hi) (fun _ _ => trivial) fun d₂ hp _ => hpruned d₁ d₂ hi hp).of_outcome h₂
  exact succeeds_bind_of_outcome (hshows d₂ hi₂).outcome (succeeds_pure _ d₂)

/-! ## Fuel -/

/-- A run takes steps up to a number that is known after the first of them. -/
theorem exists_fuel (r : Runner) (s : Surroundings) (d : Disk) :
    ∃ fuel, r.run.run s d = (r.runUpTo [] fuel).run s d ∧
      ∀ report r' d', r.step.run s d = ((.ok (some report), r'), d') →
        fuel = r'.source.size + 2 := by
  cases hstep : r.step.run s d with
  | mk result d₁ =>
    obtain ⟨outcome, r₁⟩ := result
    refine ⟨r₁.source.size + 2, ?_, fun report r' d' h => ?_⟩
    · rw [run, runUpTo, Action.run_bind, Action.run_bind, hstep]
      rcases outcome with e | _ | report <;> rfl
    · cases h
      rfl

/-! ## Batches -/

/-- The parts of a batch are written where the tables stay and no directory is in their way. -/
theorem succeeds_store_of {I S : Disk → Prop} {id : Nat} {o : BatchOutcome}
    (h64 : id < 0x10000000000000000) (h : I d)
    (hdirs : ∀ d, I d → ∀ k, d.HasDirectory (r.layout.table k).directory)
    (hfree : ∀ d, I d → ∀ k, d.get? (r.layout.placeOf (.part k id)) ≠ some .directory ∧
      d.get? (r.layout.placeOf (.unfinished k id)) ≠ some .directory)
    (hwrites : ∀ d, I d → ∀ k,
      Job.Ensures s S (fun _ => I) ((r.layout.table k).writePart id (o.rows k)) d) :
    Succeeds s (r.store id o) d := by
  rw [store_eq_forM]
  refine succeeds_forM (I := I) h ?_
  rintro k - d₁ h₁
  obtain ⟨p, name, hname, hdir⟩ := r.layout.exists_directory_table k
  obtain ⟨hpart, hunfinished⟩ := hfree d₁ h₁ k
  rw [← r.layout.place_part] at hpart
  rw [← r.layout.place_unfinished] at hunfinished
  refine ⟨succeeds_discard (PartTable.succeeds_writePart hname hdir (hdirs d₁ h₁ k) h64 hpart
    hunfinished _), fun d₂ h₂ => ?_⟩
  exact (ensures_discard (Q := fun _ => I) (hwrites d₁ h₁ k)).of_outcome h₂

/-- A batch is run where its parts are written, and then its checkpoint can be saved. -/
theorem succeeds_runBatch_of {batch : InputBatch} {time : Instant}
    (htime : r.time.outcome s d = (.ok time, d))
    (hstore : Succeeds s (r.store r.checkpoint.next (r.outcome s.id time batch)) d)
    (hafter : ∀ d₁, (r.store r.checkpoint.next (r.outcome s.id time batch)).outcome s d =
      (.ok (), d₁) → d₁.HasDirectory r.layout.clean.directory ∧
        d₁.get? (r.layout.placeOf .checkpoint) ≠ some .directory ∧
        d₁.get? (r.layout.placeOf .unfinishedCheckpoint) ≠ some .directory) :
    Succeeds s (r.runBatch batch) d := by
  rw [runBatch_eq]
  refine succeeds_bind_of_outcome htime ?_
  refine succeeds_bind_of_outcome (outcome_ask (o := .newId) (r := s.id) rfl) ?_
  refine hstore.bind fun _ d₁ h₁ => ?_
  obtain ⟨hdir, hcheckpoint, hunfinished⟩ := hafter d₁ h₁
  refine (Layout.succeeds_saveCheckpoint _ hdir hcheckpoint hunfinished).bind fun _ d₂ _ => ?_
  exact succeeds_pure _ d₂

end Runner

namespace Workload

variable {w : Workload} {n : Nat}

theorem Sound.proper_permits (hw : w.Sound) (hn : n ≤ w.files.length) :
    Layout.Proper (w.Permits n) where
  kind a node hp := by
    cases a with
    | directory | system =>
      obtain rfl : node = .directory := hp
      rfl
    | part =>
      obtain ⟨-, -, entryId, -, rfl⟩ := hp
      rfl
    | unfinished =>
      obtain ⟨-, content, rfl⟩ := hp
      rfl
    | checkpoint =>
      obtain ⟨-, rfl⟩ := hp
      rfl
    | unfinishedCheckpoint =>
      obtain ⟨content, rfl⟩ := hp
      rfl
  small k id node hp := by
    have hle : id ≤ n := hp.elim And.left And.left
    exact Nat.le_trans (Nat.le_trans hle hn) hw.small

theorem Stands.not_directory (hw : w.Sound) (h : w.Stands n d) {a : Slot} (ha : a.kind = .file) :
    d.get? (w.layout.placeOf a) ≠ some .directory :=
  Layout.Allows.not_directory h.below (hw.proper_permits h.bounded) ha

/-! ## Opening -/

/-- No file comes to be on the way to the root. -/
theorem Stands.clear (hw : w.Sound) (h : w.Stands n d)
    (hclear : w.start.Clear w.layout.root.names) : d.Clear w.layout.root.names :=
  hclear.of_get? fun ns hns =>
    (h.outside _ (hw.empty.way _ ⟨ns, hns, rfl⟩)).imp_right And.right

/-- Where it stands a root can be opened, if no file is on the way to it. -/
theorem succeeds_opening (hw : w.Sound) (h : w.Stands n d)
    (hclear : w.start.Clear w.layout.root.names) (partitions : Nat) :
    Succeeds s (w.opening partitions) d := by
  have hproper := hw.proper_permits h.bounded
  unfold opening
  have hensure := Layout.Allows.succeeds_ensure (s := s) h.below hproper (h.clear hw hclear)
  exact Runner.succeeds_open_of (I := fun d' => w.Stands n d' ∧ w.Prepared d') hensure
    (fun d₁ hg hdirs => ⟨h.grown hw hg, hdirs⟩)
    (fun d₁ h₁ => Checkpoint.load_of_storedAt h₁.1.storedAt fun _ => lt_of_mem_batches hw h₁.1)
    (fun d₁ h₁ => h₁.2)
    (fun d₁ h₁ k name => Layout.Allows.removable h₁.1.below hproper)
    (fun d₁ d₂ h₁ hp => ⟨h₁.1.pruned hw hp, h₁.2.mono hp.keepsDirectories⟩)
    (fun d₁ h₁ => h₁.1.shows_history hw)

/-! ## Writing -/

/-- Writing one part of the next batch leaves the root where it stands. -/
theorem ensures_writePart (hw : w.Sound) (h : w.Stands n d) (hprep : w.Prepared d)
    (hn : n < w.files.length) (entryId : String) (k : TableKind) :
    Job.Ensures s (fun d' => w.Stands n d' ∧ w.Prepared d')
      (fun _ d' => w.Stands n d' ∧ w.Prepared d')
      ((w.layout.table k).writePart n ((w.outcomeAt n entryId).rows k)) d := by
  obtain ⟨p, name, hname, hdir⟩ := w.layout.exists_directory_table k
  have hgrown {d₁ : Disk} (hg : Grown (w.layout.table k).directory.OnWay d d₁) :
      w.Stands n d₁ := h.grown hw (hg.mono fun _ hway => ⟨k, hway⟩)
  refine PartTable.ensures_writePart hname hdir (fun _ => ⟨h, hprep⟩)
    (fun _ d₁ d' hg hp => ?_) fun hne d₁ d' hg hwritten => ?_
  · rw [w.layout.place_unfinished] at hp
    exact ⟨(hgrown hg).partly (.inr ⟨k, n, Nat.le_refl n, rfl⟩) hp,
      hprep.mono (hg.keepsDirectories.trans hp.keepsDirectories)⟩
  · exact ⟨(hgrown hg).written hn hne hwritten,
      hprep.mono (hg.keepsDirectories.trans hwritten.keepsDirectories)⟩

theorem succeeds_store (hw : w.Sound) (h : w.Stands n d) (hprep : w.Prepared d)
    (hlayout : r.layout = w.layout) (hn : n < w.files.length) (entryId : String) :
    Succeeds s (r.store n (w.outcomeAt n entryId)) d := by
  refine Runner.succeeds_store_of (I := fun d' => w.Stands n d' ∧ w.Prepared d')
    (S := fun d' => w.Stands n d' ∧ w.Prepared d') (hw.small_of_lt hn) ⟨h, hprep⟩ ?_ ?_ ?_
  · rintro d' ⟨-, hprep'⟩
    exact hlayout ▸ hprep'
  · rintro d' ⟨h', -⟩ k
    rw [hlayout]
    exact ⟨h'.not_directory hw rfl, h'.not_directory hw rfl⟩
  · rintro d' ⟨h', hprep'⟩ k
    rw [hlayout]
    exact ensures_writePart hw h' hprep' hn entryId k

theorem succeeds_runBatch (hw : w.Sound) (h : w.Ready n r d) {f : String × List Record}
    {rest : List (String × List Record)} (hdrop : w.files.drop n = f :: rest) :
    Succeeds s (r.runBatch ⟨f.1, f.2⟩) d := by
  obtain ⟨hstands, hk, hprep⟩ := h
  have hn := lt_of_drop hdrop
  have hnext : r.checkpoint.next = n := by
    rw [hk.checkpoint, next_checkpointAt hstands.bounded]
  have htime : r.time.outcome s d = (.ok w.time, d) := by
    rw [Runner.time, hk.time]
    rfl
  refine Runner.succeeds_runBatch_of htime ?_ ?_
  · rw [outcome_eq hk hdrop, hnext]
    exact succeeds_store hw hstands hprep hk.layout hn s.id
  · intro d₁ h₁
    rw [outcome_eq hk hdrop, hnext] at h₁
    obtain ⟨hstands₁, hprep₁, -⟩ := (ensures_store hw hstands hprep hk hn s.id).of_outcome h₁
    rw [hk.layout]
    exact ⟨hprep₁ .clean, hstands₁.not_directory hw rfl,
      hstands₁.not_directory hw rfl⟩

/-! ## Reading -/

theorem list_input (hw : w.Sound) (h : w.Stands n d) :
    d.list w.input = .ok (d.children w.input.place) := by
  obtain ⟨found, hl, -⟩ := hw.listed
  obtain ⟨hdir, -⟩ := list_ok hl
  exact list_of_hasDirectory (hdir.mono (h.keepsDirectories hw))

theorem succeeds_queue (hw : w.Sound) (h : w.Stands n d) (pending : Option (List String)) :
    ∃ names, (Source.queue w.input (w.checkpointAt n) pending).outcome s d = (.ok names, d) := by
  cases pending with
  | some names => exact ⟨names, rfl⟩
  | none =>
    have hask : d.respond s (.list w.input) = (.ok (d.children w.input.place), d) := by
      show (d.list w.input, d) = _
      rw [list_input hw h]
      rfl
    exact ⟨_, outcome_bind_of_outcome (outcome_ask hask)⟩

/-- A source without failures gives the next file or comes to its end. -/
theorem exists_next (hw : w.Sound) (h : w.Ready n r d) :
    ∃ batch src, (r.source.next r.checkpoint).run s d = ((.ok batch, src), d) := by
  obtain ⟨hstands, hk, -⟩ := h
  obtain ⟨pending, hsrc⟩ : ∃ pending, r.source = .directory w.input pending := by
    rcases hk.source with hq | ⟨j, -, hq⟩
    · exact ⟨_, hq⟩
    · exact ⟨_, hq⟩
  have hqueued := hk.source
  rw [hsrc] at hqueued ⊢
  rw [hk.checkpoint]
  obtain ⟨names, hnames⟩ := succeeds_queue (s := s) hw hstands pending
  have hqueue : Source.Queue w.input (w.checkpointAt n) d pending names :=
    (Source.ensures_queue w.input pending (S := fun _ => True) (s := s)
      (Q := fun names _ => Source.Queue w.input (w.checkpointAt n) d pending names) trivial
      fun _ hq => hq).of_outcome hnames
  have hdrop := dropWhile_queue hw hstands hqueued hqueue
  rw [drop_names] at hdrop
  cases hrest : w.files.drop n with
  | nil => exact ⟨none, _, Source.run_next_end hnames (by rw [hdrop, hrest, List.map_nil])⟩
  | cons f rest =>
    have hmem : f ∈ w.files := List.mem_of_mem_drop (hrest ▸ List.mem_cons_self)
    exact ⟨_, _, Source.run_next hnames (by rw [hdrop, hrest, List.map_cons])
      (hstands.fileHolds hw hmem)⟩

/-! ## Steps and runs -/

/-- A step without failures succeeds. -/
theorem succeeds_step (hw : w.Sound) (h : w.Ready n r d) :
    ∃ report r' d', r.step.run s d = ((.ok report, r'), d') := by
  obtain ⟨batch, src, hnext⟩ := exists_next (s := s) hw h
  obtain ⟨hstands, hk, hprep⟩ := h
  rw [Runner.step, Action.run_bind, hnext]
  cases batch with
  | none => exact ⟨none, _, d, rfl⟩
  | some batch =>
    have hfollows : Source.Follows r.checkpoint d r.source (.ok (some batch)) src := by
      have hrun := (Source.ensures_next (s := s) (S := fun _ => True) (d := d)
        (c := r.checkpoint)
        (Q := fun x _ => Source.Follows r.checkpoint d r.source x.1 x.2) trivial
        fun _ _ hf => hf).run
      rw [hnext] at hrun
      exact hrun
    obtain ⟨hq, f, rest, hdrop, rfl, -⟩ :=
      gives_of_follows hw hstands hk.source (hk.checkpoint ▸ hfollows)
    have hready : w.Ready n { r with source := src } d :=
      ⟨hstands, ⟨hk.rules, hk.layout, hk.time, hk.frozen, hk.checkpoint, hk.history, hq⟩, hprep⟩
    obtain ⟨⟨report, r'⟩, hbatch⟩ := succeeds_runBatch (s := s) hw hready hdrop
    unfold outcome at hbatch
    dsimp only
    rw [Action.run_bind, hbatch]
    exact ⟨some report, r', _, rfl⟩

theorem succeeds_runUpTo (hw : w.Sound) (batches : List BatchReport) {fuel : Nat}
    (h : w.Ready n r d) (hfuel : w.files.length - n ≤ fuel) : ∃ summary r' d',
      (r.runUpTo batches fuel).run s d = ((.ok summary, r'), d') ∧
        w.Ready w.files.length r' d' := by
  induction fuel generalizing n r d batches with
  | zero =>
    have hend : n = w.files.length := by
      have := h.stands.bounded
      omega
    exact ⟨_, r, d, rfl, hend ▸ h⟩
  | succ fuel ih =>
    obtain ⟨report, r', d', hstep⟩ := succeeds_step (s := s) hw h
    have hstepped := (ensures_step (s := s) hw h).run
    rw [hstep] at hstepped
    rw [Runner.runUpTo, Action.run_bind, hstep]
    cases report with
    | none => exact ⟨_, r', d', rfl, hstepped.2 ▸ hstepped.1⟩
    | some report => exact ih (batches ++ [report]) hstepped.1 (by omega)

/-- A run without failures ends with all files committed. -/
theorem succeeds_run (hw : w.Sound) (h : w.Ready n r d) : ∃ summary r' d',
    r.run.run s d = ((.ok summary, r'), d') ∧ w.Ready w.files.length r' d' := by
  obtain ⟨fuel, hrun, hfuel⟩ := r.exists_fuel s d
  rw [hrun]
  refine succeeds_runUpTo hw [] h ?_
  obtain ⟨report, r', d', hstep⟩ := succeeds_step (s := s) hw h
  have hstepped := (ensures_step (s := s) hw h).run
  rw [hstep] at hstepped
  cases report with
  | none =>
    have hend : n = w.files.length := hstepped.2
    omega
  | some report =>
    have hsize : r'.source.size = w.files.length - n := hstepped.2
    rw [hfuel report r' d' hstep]
    omega

end Workload

end Quarantine
