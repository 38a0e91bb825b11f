import Quarantine.Proofs.Pipeline.Availability
import Quarantine.Proofs.Pipeline.OwnParts
import Quarantine.Proofs.Storage.Inputs

/-!
# Draining a directory

A runner that takes its batches from a directory commits the files that are left there, one after
the other, if nothing is refused.  The files that are committed already may be those of other
runners, with other rules.

    Covers l fs cs d     the commits are of the first of the files
    Drains r l path …    the runner goes on with the files after these
    run                  ends with a commit for each file, the new ones with the rules of the runner

Outside of the root there are directories more at most, on the way to it.
-/

namespace Quarantine

open Quarantine.Disk Quarantine.Job Quarantine.Json

variable {l : Layout} {cs : List Commit} {s : Surroundings} {d d' d'' : Disk}

namespace Layout

/-! ## Outside of the root -/

/-- That outside of the root there are directories more at most, on the way to the tables. -/
structure Around (l : Layout) (d d' : Disk) : Prop where
  keepsDirectories : KeepsDirectories d d'
  outside : ∀ pl, ¬ l.root.Below pl → d'.get? pl = d.get? pl ∨
    l.OnWay pl ∧ d.get? pl = none ∧ d'.get? pl = some .directory

theorem Around.refl (l : Layout) (d : Disk) : l.Around d d := ⟨.refl d, fun _ _ => .inl rfl⟩

theorem Around.trans (h : l.Around d d') (h' : l.Around d' d'') : l.Around d d'' := by
  refine ⟨h.keepsDirectories.trans h'.keepsDirectories, fun pl hb => ?_⟩
  rcases h'.outside pl hb with he | ⟨hway, hnone, hdir⟩
  · rw [he]
    exact h.outside pl hb
  · rcases h.outside pl hb with he | ⟨-, -, hdir'⟩
    · exact .inr ⟨hway, he ▸ hnone, hdir⟩
    · rw [hdir'] at hnone
      cases hnone

/-- What changes only under the root leaves the rest. -/
theorem around_of_below (hk : KeepsDirectories d d')
    (h : ∀ pl, d'.get? pl = d.get? pl ∨ l.root.Below pl) : l.Around d d' :=
  ⟨hk, fun pl hb => .inl ((h pl).resolve_right hb)⟩

theorem around_of_drafted {n : Nat} (h : SameBut (l.Draft n) d d') : l.Around d d' := by
  refine around_of_below h.keepsDirectories fun pl => (h pl).imp_right ?_
  rintro ⟨hdraft, -, -⟩
  cases hdraft <;> exact l.below_placeOf _

theorem around_of_saved {content : ByteArray} (h : Written l.checkpoint content d d') :
    l.Around d d' := by
  refine around_of_below h.keepsDirectories fun pl => ?_
  by_cases h1 : pl = l.placeOf .checkpoint
  · exact .inr (h1 ▸ l.below_placeOf _)
  by_cases h2 : pl = l.placeOf .unfinishedCheckpoint
  · exact .inr (h2 ▸ l.below_placeOf _)
  · exact .inl (get?_of_saved h h1 h2)

/-- What is read outside of the root is still read. -/
theorem Around.read (h : l.Around d d') (hempty : EmptyRoot d l.root) {path : Path}
    {content : ByteArray} (hread : d.read path = .ok content) : d'.read path = .ok content := by
  obtain ⟨hl, hg⟩ := read_ok_iff.1 hread
  have hb : ¬ l.root.Below path.place := by
    intro hb
    rw [hempty.nothing _ hb] at hg
    cases hg
  refine read_ok_iff.2 ⟨locate_mono h.keepsDirectories hl, ?_⟩
  rcases h.outside _ hb with he | ⟨-, hnone, -⟩
  · rw [he, hg]
  · rw [hnone] at hg
    cases hg

/-- No file comes to be on the way to the root. -/
theorem Around.clear (h : l.Around d d') (hway : ∀ pl, l.root.OnWay pl → ¬ l.root.Below pl)
    (hclear : d.Clear l.root.names) : d'.Clear l.root.names :=
  hclear.of_get? fun ns hns => (h.outside _ (hway _ ⟨ns, hns, rfl⟩)).imp_right fun hnew => hnew.2.2

end Layout

namespace Runner

variable {r : Runner}

theorem UpToDate.ensures_runBatch_around (h : r.UpToDate l cs d) (hk : l.Keeps cs d)
    (batch : InputBatch) :
    Job.Ensures s (fun _ => True) (fun _ d' => l.Around d d') (r.runBatch batch) d := by
  refine (ensures_runBatch_written (h.inPlace hk) batch (Q := fun _ d' => l.Around d d')
    fun time entryId d₁ d' hsame _ hw => ?_).mono (fun _ _ => trivial) fun _ _ h => h
  rw [h.layout] at hsame hw
  exact (Layout.around_of_drafted hsame).trans (Layout.around_of_saved hw)

end Runner

/-! ## Files and commits -/

variable {path : Path} {fs : List InputFile}

/-- What is offered outside of the root stays so. -/
theorem Layout.Around.offers (ha : l.Around d d')
    (hout : ∀ name, ¬ l.root.Below (path.place ++ [name])) (h : Source.Offers path fs d) :
    Source.Offers path fs d' := by
  have hfile {name : String} {content : ByteArray}
      (hg : d.get? (path.place ++ [name]) = some (.file content)) :
      d'.get? (path.place ++ [name]) = some (.file content) := by
    rcases ha.outside _ (hout name) with he | ⟨-, hnone, -⟩
    · rw [he, hg]
    · rw [hnone] at hg
      cases hg
  refine ⟨h.directory.mono ha.keepsDirectories, ?_, h.named, fun f hf => ?_, h.parses⟩
  · rw [← h.listed]
    refine Source.wanted_eq_of_inputs fun name => (ha.outside _ (hout name)).imp_right ?_
    -- a new directory is no input
    rintro ⟨-, hnone, hdir⟩ node (hg | hg)
    · obtain rfl := Option.some.inj (hdir.symm.trans hg)
      rfl
    · rw [hnone] at hg
      cases hg
  · obtain ⟨hl, hg⟩ := read_ok_iff.1 (h.reads f hf)
    refine read_ok_iff.2 ⟨locate_mono ha.keepsDirectories hl, ?_⟩
    rw [Path.place_join _ (h.named f hf)] at hg ⊢
    exact hfile hg

/-- That commits are of the first of some files, and have their parts and no others. -/
structure Layout.Covers (l : Layout) (fs : List InputFile) (cs : List Commit) (d : Disk) :
    Prop where
  keeps : l.Keeps cs d
  exact : l.Exact cs d
  files : cs.map Commit.batch <+: fs.map InputFile.batch

namespace Layout.Covers

theorem map_batch (h : l.Covers fs cs d) :
    cs.map Commit.batch = (fs.take cs.length).map InputFile.batch := by
  rw [List.prefix_iff_eq_take.1 h.files, List.length_map, List.map_take]

theorem length_le (h : l.Covers fs cs d) : cs.length ≤ fs.length := by
  have hle := h.files.length_le
  rw [List.length_map, List.length_map] at hle
  exact hle

/-- The commit of the next file goes on with the files. -/
theorem files_concat (h : l.Covers fs cs d) {f : InputFile} {rest : List InputFile}
    (hdrop : fs.drop cs.length = f :: rest) {c : Commit} (hc : c.batch = f.batch) :
    (cs ++ [c]).map Commit.batch <+: fs.map InputFile.batch := by
  have hfirst : fs.take cs.length ++ [f] <+: fs := by
    refine ⟨rest, ?_⟩
    rw [List.append_assoc, List.singleton_append, ← hdrop, List.take_append_drop]
  rw [List.map_append, List.map_singleton, hc, h.map_batch]
  have hbatches := hfirst.map InputFile.batch
  rw [List.map_append] at hbatches
  exact hbatches

/-- The files that are processed are those with commits. -/
theorem processed (h : l.Covers fs cs d) : Source.Processed (checkpointOf cs) fs cs.length := by
  intro name
  have hsources : (fs.map InputFile.name).take cs.length =
      (cs.map Commit.batch).map InputBatch.source := by
    rw [h.map_batch, List.map_map, List.map_take]
    rfl
  rw [isProcessed_checkpointOf, hsources, List.map_map, List.mem_map]
  rfl

end Layout.Covers

namespace Runner

/-- That a runner goes on with the files after those with commits. -/
structure Drains (r : Runner) (l : Layout) (path : Path) (fs : List InputFile) (cs : List Commit)
    (d : Disk) : Prop where
  covers : l.Covers fs cs d
  unused : cs.length < 0x10000000000000000 → l.Unused cs.length d
  upToDate : r.UpToDate l cs d
  offers : Source.Offers path fs d
  /-- Files that were committed may still be in the queue. -/
  queue : ∃ j ≤ cs.length, r.source = .directory path (some ((fs.drop j).map InputFile.name))

variable {r : Runner}

/-! ## Steps -/

/-- After the last file there is no batch. -/
theorem Drains.run_step_none (h : r.Drains l path fs cs d) (hend : fs.drop cs.length = []) :
    r.step.run s d = ((.ok none, { r with source := .directory path (some []) }), d) := by
  obtain ⟨j, hj, hsource⟩ := h.queue
  have hnext := h.offers.run_next_none (s := s) h.covers.processed hj hend
  rw [step, Action.run_bind, hsource, h.upToDate.checkpoint, hnext]
  rfl

/-- A file that is left is committed, with the rules of the runner. -/
theorem Drains.exists_step (h : r.Drains l path fs cs d)
    (hout : ∀ name, ¬ l.root.Below (path.place ++ [name]))
    (hsmall : fs.length ≤ 0x10000000000000000) {f : InputFile} {rest : List InputFile}
    (hdrop : fs.drop cs.length = f :: rest) :
    ∃ report r' d' c, r.step.run s d = ((.ok (some report), r'), d') ∧ c.rules = r.rules ∧
      r'.rules = r.rules ∧ r'.source.size = fs.length - cs.length ∧
      r'.Drains l path fs (cs ++ [c]) d' ∧ l.Around d d' := by
  obtain ⟨j, hj, hsource⟩ := h.queue
  have hnext := h.offers.run_next_batch (s := s) h.covers.processed hj hdrop
  rw [← hsource, ← h.upToDate.checkpoint] at hnext
  have hlt : cs.length < fs.length := by
    refine Nat.lt_of_not_le fun hle => ?_
    rw [List.drop_eq_nil_of_le hle] at hdrop
    cases hdrop
  have h64 : cs.length < 0x10000000000000000 := Nat.lt_of_lt_of_le hlt hsmall
  have hk := h.covers.keeps
  have hup := h.upToDate.supplied
    (.directory path (some ((fs.drop cs.length).map InputFile.name)))
  obtain ⟨⟨report, r'⟩, d', hran⟩ :=
    runUnder_nil_of_succeeds (hup.succeeds_runBatch (s := s) hk h64 f.batch)
  have hrun := run_of_runUnder_nil hran
  obtain ⟨entryId, time, -, hr', hk', hup', -⟩ := hup.of_report hk h64 hran
  obtain ⟨hexact, hunused⟩ := hup.exact_of_report hk h.covers.exact (h.unused h64) hran hk'
  have haround : l.Around d d' := (hup.ensures_runBatch_around (s := s) hk f.batch).result hran
  have hr'source : r'.source =
      .directory path (some ((fs.drop cs.length).map InputFile.name)) := by
    rw [hr']
    rfl
  refine ⟨report, r', d', _, ?_, rfl, ?_, ?_, ⟨⟨hk', hexact, h.covers.files_concat hdrop rfl⟩,
    fun _ => hunused, hup', haround.offers hout h.offers, cs.length, ?_, hr'source⟩, haround⟩
  · rw [step, Action.run_bind, hnext]
    dsimp only
    rw [Action.run_bind, hrun]
    rfl
  · rw [hr']
    rfl
  · rw [hr'source]
    show ((fs.drop cs.length).map InputFile.name).length = _
    rw [List.length_map, List.length_drop]
  · rw [List.length_append]
    exact Nat.le_add_right _ _

end Runner

/-! ## Runs -/

/-- That all files are committed, those after some commits with certain rules. -/
structure Layout.Drained (l : Layout) (fs : List InputFile) (cs : List Commit) (rules : RuleSet)
    (d : Disk) (new : List Commit) (d' : Disk) : Prop where
  rules : ∀ c ∈ new, c.rules = rules
  covers : l.Covers fs (cs ++ new) d'
  length : (cs ++ new).length = fs.length
  around : l.Around d d'

theorem Layout.Drained.cons {rules : RuleSet} {c : Commit} {new : List Commit}
    (hc : c.rules = rules) (ha : l.Around d d') (h : l.Drained fs (cs ++ [c]) rules d' new d'') :
    l.Drained fs cs rules d (c :: new) d'' := by
  obtain ⟨hrules, hcovers, hlength, haround⟩ := h
  rw [List.append_assoc, List.singleton_append] at hcovers hlength
  exact ⟨List.forall_mem_cons.2 ⟨hc, hrules⟩, hcovers, hlength, ha.trans haround⟩

namespace Runner

variable {r : Runner}

/-- Where no file is left, all are committed. -/
theorem Drains.drained (h : r.Drains l path fs cs d) (hend : fs.length - cs.length = 0) :
    l.Drained fs cs r.rules d [] d := by
  have hle := h.covers.length_le
  refine ⟨fun _ hc => absurd hc List.not_mem_nil, ?_, ?_, .refl l d⟩
  · rw [List.append_nil]
    exact h.covers
  · rw [List.append_nil]
    omega

theorem Drains.exists_runUpTo (h : r.Drains l path fs cs d)
    (hout : ∀ name, ¬ l.root.Below (path.place ++ [name]))
    (hsmall : fs.length ≤ 0x10000000000000000) (reports : List BatchReport) {fuel : Nat}
    (hfuel : fs.length - cs.length ≤ fuel) : ∃ summary r' d' new,
      (r.runUpTo reports fuel).run s d = ((.ok summary, r'), d') ∧
        l.Drained fs cs r.rules d new d' := by
  induction fuel generalizing r cs d reports with
  | zero => exact ⟨_, r, d, [], rfl, h.drained (Nat.le_zero.1 hfuel)⟩
  | succ fuel ih =>
    rw [runUpTo, Action.run_bind]
    cases hdrop : fs.drop cs.length with
    | nil =>
      rw [h.run_step_none hdrop]
      have hend := List.length_drop.symm.trans (congrArg List.length hdrop)
      exact ⟨_, _, d, [], rfl, h.drained hend⟩
    | cons f rest =>
      obtain ⟨report, r₁, d₁, c, hstep, hc, hrules, -, hdrains, haround⟩ :=
        h.exists_step (s := s) hout hsmall hdrop
      have hleft : fs.length - (cs ++ [c]).length ≤ fuel := by
        rw [List.length_append, List.length_singleton]
        omega
      obtain ⟨summary, r', d', new, hrun, hdrained⟩ := ih hdrains (reports ++ [report]) hleft
      rw [hstep]
      rw [hrules] at hdrained
      exact ⟨summary, r', d', c :: new, hrun, hdrained.cons hc haround⟩

/-- A run without failures commits the files that are left, with the rules of the runner. -/
theorem Drains.exists_run (h : r.Drains l path fs cs d)
    (hout : ∀ name, ¬ l.root.Below (path.place ++ [name]))
    (hsmall : fs.length ≤ 0x10000000000000000) : ∃ summary r' d' new,
      r.run.run s d = ((.ok summary, r'), d') ∧ l.Drained fs cs r.rules d new d' := by
  obtain ⟨fuel, hrun, hfuel⟩ := r.exists_fuel s d
  rw [hrun]
  refine h.exists_runUpTo hout hsmall [] ?_
  cases hdrop : fs.drop cs.length with
  | nil =>
    rw [← List.length_drop, hdrop]
    exact Nat.zero_le fuel
  | cons f rest =>
    obtain ⟨report, r₁, d₁, -, hstep, -, -, hsize, -⟩ :=
      h.exists_step (s := s) hout hsmall hdrop
    rw [hfuel report r₁ d₁ hstep, hsize]
    omega

/-! ### From the opening on -/

end Runner

end Quarantine
