import Quarantine.Proofs.Pipeline.Life
import Quarantine.Proofs.Storage.Success

/-!
# A root stays available

Whatever became of a root, as long as a runner is there and nothing is refused, the root can be
opened again, and a batch can be committed to it while there are numbers for batches.

    x.runner = some r → Move l x (opened rules frozen) y       for some y
    x.runner = some r → Move l x (committed batch report) y    for some report and y
-/

namespace Quarantine

open Quarantine.Disk Quarantine.Job Quarantine.Json

variable {l : Layout} {cs : List Commit} {s : Surroundings} {d : Disk}

namespace Layout

/-! ## What is in the way -/

theorem Keeps.proper (h : l.Keeps cs d) : Proper (Permits cs) where
  kind a node hp := by
    cases a with
    | directory | system =>
      obtain rfl : node = .directory := hp
      rfl
    | part | unfinished =>
      obtain ⟨⟨content, rfl⟩, -⟩ := hp
      rfl
    | checkpoint =>
      obtain ⟨-, content, rfl⟩ := hp
      rfl
    | unfinishedCheckpoint =>
      obtain ⟨content, rfl⟩ := hp
      rfl
  small k id node hp := by
    have hle : id ≤ cs.length := hp.elim (fun hp => hp.2.1) fun hp => hp.2
    exact Nat.le_trans hle h.small

theorem Keeps.not_directory (h : l.Keeps cs d) {a : Slot} (ha : a.kind = .file) :
    d.get? (l.placeOf a) ≠ some .directory := Allows.not_directory h.below h.proper ha

theorem Keeps.removable (h : l.Keeps cs d) {k : TableKind} {committed : Ascending Nat}
    {name : String} (hname : (l.table k).Discarded committed d name) :
    (l.table k).Removable d name := Allows.removable h.below h.proper hname

theorem Keeps.succeeds_ensure (h : l.Keeps cs d) (hclear : d.Clear l.root.names) :
    Succeeds s l.ensure d := Allows.succeeds_ensure h.below h.proper hclear

/-- Where the tables are there, none is made. -/
theorem outcome_ensure (h : ∀ k, d.HasDirectory (l.table k).directory) :
    l.ensure.outcome s d = (.ok (), d) := by
  refine outcome_forM fun t ht => ?_
  obtain ⟨k, rfl⟩ := mem_tables ht
  obtain ⟨p, name, hn, hdir⟩ := l.exists_directory_table k
  rw [hdir]
  exact outcome_ensureDirectory hn (hdir ▸ h k)

end Layout

namespace Runner

variable {r : Runner}

/-! ## Opening -/

/-- A root is opened if its tables can be made. -/
theorem succeeds_open_of_ensure (hk : l.Keeps cs d) (hensure : Succeeds s l.ensure d)
    (rules : RuleSet) (source : Source) (options : Options) :
    Succeeds s (open? rules source l options) d := by
  exact succeeds_open_of (I := fun d₁ => l.Keeps cs d₁ ∧
      ∀ k, d₁.HasDirectory (l.table k).directory) hensure
    (fun d₁ hg hdirs => ⟨hk.grown hg, hdirs⟩)
    (fun d₁ h₁ => h₁.1.load s)
    (fun d₁ h₁ => h₁.2)
    (fun d₁ h₁ k name => h₁.1.removable)
    (fun d₁ d₂ h₁ hp => ⟨h₁.1.pruned hp, fun k => (h₁.2 k).mono hp.keepsDirectories⟩)
    (fun d₁ h₁ => h₁.1.shows_history)

/-- A root with its tables is opened. -/
theorem succeeds_open (hk : l.Keeps cs d) (hdirs : ∀ k, d.HasDirectory (l.table k).directory)
    (rules : RuleSet) (source : Source) (options : Options) :
    Succeeds s (open? rules source l options) d :=
  succeeds_open_of_ensure hk (succeeds_of_outcome (Layout.outcome_ensure hdirs)) rules source
    options

/-! ## Batches -/

/-- Writing a part of the next batch keeps the commits. -/
theorem ensures_writePart_keeps (hk : l.Keeps cs d)
    (hdirs : ∀ k, d.HasDirectory (l.table k).directory) (k : TableKind) (rows : List Value) :
    Job.Ensures s (fun _ => True)
      (fun _ d' => l.Keeps cs d' ∧ ∀ k, d'.HasDirectory (l.table k).directory)
      ((l.table k).writePart cs.length rows) d := by
  obtain ⟨p, name, hname, hdir⟩ := l.exists_directory_table k
  have hdrafted {d' : Disk} (hsame : SameBut (l.Draft cs.length) d d') :
      l.Keeps cs d' ∧ ∀ k, d'.HasDirectory (l.table k).directory :=
    ⟨hk.drafted hsame, fun k => (hdirs k).mono hsame.keepsDirectories⟩
  refine PartTable.ensures_writePart hname hdir (fun _ => ⟨hk, hdirs⟩)
    (fun _ _ _ _ _ => trivial) fun _ d₁ d' hg hw => hdrafted ?_
  refine (Layout.sameBut_of_grown hdirs (hg.mono fun _ hway => ⟨k, hway⟩)).trans
    (hw.sameBut ?_ ?_)
  · rw [l.place_part]
    exact .part k
  · rw [l.place_unfinished]
    exact .unfinished k

theorem succeeds_store (hk : l.Keeps cs d) (hdirs : ∀ k, d.HasDirectory (l.table k).directory)
    (hlayout : r.layout = l) (h64 : cs.length < 0x10000000000000000) (o : BatchOutcome) :
    Succeeds s (r.store cs.length o) d := by
  subst hlayout
  refine succeeds_store_of (I := fun d' => r.layout.Keeps cs d' ∧
    ∀ k, d'.HasDirectory (r.layout.table k).directory) (S := fun _ => True) h64 ⟨hk, hdirs⟩
    ?_ ?_ ?_
  · rintro d' ⟨-, hdirs'⟩
    exact hdirs'
  · rintro d' ⟨hk', -⟩ k
    exact ⟨hk'.not_directory rfl, hk'.not_directory rfl⟩
  · rintro d' ⟨hk', hdirs'⟩ k
    exact ensures_writePart_keeps hk' hdirs' k _

/-- A runner that knows the commits can commit another batch. -/
theorem UpToDate.succeeds_runBatch (h : r.UpToDate l cs d) (hk : l.Keeps cs d)
    (h64 : cs.length < 0x10000000000000000) (batch : InputBatch) :
    Succeeds s (r.runBatch batch) d := by
  obtain ⟨time, htime⟩ : ∃ time, r.time.outcome s d = (.ok time, d) := by
    unfold time
    cases r.options.time with
    | some t => exact ⟨t, rfl⟩
    | none => exact ⟨s.time, outcome_ask (o := .now) rfl⟩
  refine succeeds_runBatch_of htime ?_ fun d₁ h₁ => ?_
  · rw [h.next]
    exact succeeds_store hk h.directories h.layout h64 _
  · obtain ⟨hsame, -⟩ := (ensures_store_draft (h.inPlace hk) _).of_outcome h₁
    rw [h.layout, h.next] at hsame
    have hk₁ := hk.drafted hsame
    rw [h.layout]
    exact ⟨(h.directories .clean).mono hsame.keepsDirectories,
      hk₁.not_directory rfl, hk₁.not_directory rfl⟩

end Runner

/-! ## Lives that go on -/

section

variable {start : Disk} {hs : List Happening} {x : World} {r : Runner}

theorem runUnder_nil_of_succeeds {α : Type} {j : Job α} (h : Succeeds s j d) :
    ∃ a d', Action.runUnder s j.run [] d = ⟨some (.ok a), [], d'⟩ := by
  obtain ⟨a, ha⟩ := h
  refine ⟨a, (j.outcome s d).2, ?_⟩
  unfold Job.outcome at ha
  rw [Action.runUnder_nil, ha]
  rfl

theorem run_of_runUnder_nil {α : Type} {a : Action α} {x : α} {d' : Disk} {rest : List Fate}
    (h : a.runUnder s [] d = ⟨some x, rest, d'⟩) : a.run s d = (x, d') := by
  rw [Action.runUnder_nil] at h
  cases h
  rfl

/-- An empty root can be opened if its tables can be made. -/
theorem exists_opened (hempty : EmptyRoot start l.root)
    (hensure : Succeeds ⟨.epoch, ""⟩ l.ensure start) (rules : RuleSet) (source : Source)
    (options : Options) :
    ∃ y r, Move l ⟨start, none⟩ (some (.opened rules options.frozen)) y ∧ y.runner = some r := by
  obtain ⟨r, d', hrun⟩ := runUnder_nil_of_succeeds (Runner.succeeds_open_of_ensure
    (Layout.keeps_of_empty hempty) hensure rules source options)
  exact ⟨_, r, .opened hrun, rfl⟩

/-- A root with a runner can be opened again. -/
theorem Life.exists_reopened (hempty : EmptyRoot start l.root) (h : Life l start hs x)
    (hr : x.runner = some r) (rules : RuleSet) (source : Source) (options : Options) :
    ∃ y r', Move l x (some (.opened rules options.frozen)) y ∧ y.runner = some r' := by
  obtain ⟨cs, hcs⟩ := h.exists_chronicle hempty
  obtain ⟨r', d', hrun⟩ := runUnder_nil_of_succeeds (s := ⟨.epoch, ""⟩)
    (Runner.succeeds_open hcs.keeps (hcs.upToDate r hr).directories rules source options)
  exact ⟨_, r', .opened hrun, rfl⟩

/-- While there are numbers for batches, a batch can be committed. -/
theorem Life.exists_committed (hempty : EmptyRoot start l.root) (h : Life l start hs x)
    (hr : x.runner = some r) (h64 : (recordsOf hs).length < 0x10000000000000000)
    (batch : InputBatch) :
    ∃ report y r', Move l x (some (.committed batch report)) y ∧ y.runner = some r' := by
  obtain ⟨cs, hcs⟩ := h.exists_chronicle hempty
  have hup := hcs.upToDate r hr
  have hsmall := hcs.length_eq ▸ h64
  obtain ⟨⟨report, r'⟩, d', hrun⟩ := runUnder_nil_of_succeeds (s := ⟨.epoch, ""⟩)
    (hup.succeeds_runBatch hcs.keeps hsmall batch)
  exact ⟨report, _, r', .ran hr (hup.next ▸ hsmall) hrun, rfl⟩

end

/-! ### A case -/

theorem emptyRoot_sample : EmptyRoot .empty Runner.sample.layout.root := by
  refine emptyRoot_of_no_parent (by decide +kernel) ?_
  rintro _ ⟨names, hnames, rfl⟩
  exact if_neg (List.append_ne_nil_of_right_ne_nil _ hnames)

/-- The tables of a root of which nothing is there can be made. -/
theorem succeeds_ensure_sample : Succeeds ⟨.epoch, ""⟩ Runner.sample.layout.ensure .empty := by
  have hmade : (Runner.sample.layout.ensure.outcome ⟨.epoch, ""⟩ .empty).1.toOption.isSome =
      true := by decide +kernel
  obtain ⟨u, hu⟩ := Option.isSome_iff_exists.1 hmade
  exact ⟨u, Workload.eq_ok_of_toOption hu⟩

/-- A root of which nothing is there is opened. -/
theorem Life.exists_opened_sample : ∃ x r, Life Runner.sample.layout .empty
    [.opened Runner.sample.rules false] x ∧ x.runner = some r := by
  obtain ⟨x, r, m, hr⟩ := exists_opened emptyRoot_sample succeeds_ensure_sample
    Runner.sample.rules Runner.sample.source Runner.sample.options
  exact ⟨x, r, .moved .begun m, hr⟩

end Quarantine
