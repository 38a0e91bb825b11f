import Quarantine.Proofs.Storage.Source

/-!
# The files of a directory

A directory offers files to a source.  As long as it does, the first of them may be processed, and
what the source gives is told by the others.

    inferColumns    the columns of the first record of the files that are not processed
    next            the first of these files, or nothing
-/

namespace Quarantine

open Quarantine.Disk Quarantine.Job

/-- A file of a directory: what is in it, and the records that it stands for. -/
structure InputFile where
  name : String
  content : ByteArray
  records : List Record

namespace InputFile

def batch (f : InputFile) : InputBatch := ⟨f.name, f.records⟩

/-- The place of the file in a directory. -/
def placeIn (path : Path) (f : InputFile) : Place := path.place ++ [f.name]

/-- That the content is that of a file with the records. -/
def Parses (path : Path) (f : InputFile) : Prop :=
  ∃ text, String.fromUTF8? f.content = some text ∧
    Rows.records (path.join f.name) text = .ok f.records

end InputFile

namespace Source

/-- That a directory has these files for a source, in the order of their names. -/
structure Offers (path : Path) (fs : List InputFile) (d : Disk) : Prop where
  directory : d.HasDirectory path
  listed : wanted (d.children path.place) = fs.map InputFile.name
  named : ∀ f ∈ fs, Path.IsName f.name
  reads : ∀ f ∈ fs, d.read (path.join f.name) = .ok f.content
  parses : ∀ f ∈ fs, f.Parses path

variable {path : Path} {fs rest : List InputFile} {f : InputFile} {d : Disk} {c : Checkpoint}
  {n j : Nat} {s : Surroundings}

theorem Offers.holds (h : Offers path fs d) (hf : f ∈ fs) :
    FileHolds d (path.join f.name) f.records := by
  obtain ⟨text, ht, hrecords⟩ := h.parses f hf
  exact ⟨f.content, text, h.reads f hf, ht, hrecords⟩

theorem Offers.nodup (h : Offers path fs d) : (fs.map InputFile.name).Nodup := by
  rw [← h.listed]
  exact nodup_wanted _ _

/-- That the first files are processed. -/
def Processed (c : Checkpoint) (fs : List InputFile) (n : Nat) : Prop :=
  ∀ name, c.isProcessed name = true ↔ name ∈ (fs.map InputFile.name).take n

/-! ## Columns -/

/-- The files in the queue that are not processed. -/
theorem Offers.dropWhile_queue (h : Offers path fs d) (hc : Processed c fs n) (hj : j ≤ n) :
    ((fs.drop j).map InputFile.name).dropWhile c.isProcessed = (fs.drop n).map InputFile.name := by
  rw [List.map_drop, List.map_drop]
  exact dropWhile_processed hc h.nodup hj

theorem Offers.run_next_batch (h : Offers path fs d) (hc : Processed c fs n) (hj : j ≤ n)
    (hdrop : fs.drop n = f :: rest) :
    (next c (.directory path (some ((fs.drop j).map InputFile.name)))).run s d =
      ((.ok (some f.batch), .directory path (some ((fs.drop n).map InputFile.name))), d) := by
  have hfirst := h.dropWhile_queue hc hj
  have hmem : f ∈ fs := List.mem_of_mem_drop (hdrop ▸ List.mem_cons_self)
  rw [hdrop, List.map_cons] at hfirst ⊢
  exact run_next rfl hfirst (h.holds hmem)

theorem Offers.run_next_none (h : Offers path fs d) (hc : Processed c fs n) (hj : j ≤ n)
    (hdrop : fs.drop n = []) :
    (next c (.directory path (some ((fs.drop j).map InputFile.name)))).run s d =
      ((.ok none, .directory path (some [])), d) := by
  have hfirst := h.dropWhile_queue hc hj
  rw [hdrop, List.map_nil] at hfirst
  exact run_next_end rfl hfirst

end Source

/-! ## Files that come later -/

namespace InputFile

variable {path : Path} {fs : List InputFile} {f g : InputFile} {d : Disk} {pl : Place}

/-- A disk without some files of a directory. -/
def withheld (path : Path) (fs : List InputFile) (d : Disk) : Disk :=
  fs.foldl (fun d f => d.erase (f.placeIn path)) d

/-- A disk with some files put into a directory. -/
def supplied (path : Path) (fs : List InputFile) (d : Disk) : Disk :=
  fs.foldl (fun d f => d.put (f.placeIn path) (.file f.content)) d

theorem placeIn_ne_nil (path : Path) (f : InputFile) : f.placeIn path ≠ [] :=
  List.append_ne_nil_of_right_ne_nil _ (List.cons_ne_nil _ _)

theorem placeIn_inj : f.placeIn path = g.placeIn path ↔ f.name = g.name := by
  constructor
  · intro h
    exact List.singleton_inj.1 (List.append_cancel_left h)
  · intro h
    rw [placeIn, placeIn, h]

theorem get?_withheld_of_ne (h : ∀ f ∈ fs, pl ≠ f.placeIn path) :
    (withheld path fs d).get? pl = d.get? pl := by
  induction fs generalizing d with
  | nil => rfl
  | cons g fs ih =>
    obtain ⟨hg, hfs⟩ := List.forall_mem_cons.1 h
    rw [withheld, List.foldl_cons, ← withheld, ih hfs, get?_erase (placeIn_ne_nil path g),
      if_neg hg]

theorem get?_withheld_of_none (h : d.get? pl = none) : (withheld path fs d).get? pl = none := by
  induction fs generalizing d with
  | nil => exact h
  | cons g fs ih =>
    rw [withheld, List.foldl_cons, ← withheld]
    refine ih ?_
    rw [get?_erase (placeIn_ne_nil path g), h, ite_self]

theorem get?_withheld_of_mem (hf : f ∈ fs) : (withheld path fs d).get? (f.placeIn path) = none := by
  induction fs generalizing d with
  | nil => exact absurd hf List.not_mem_nil
  | cons g fs ih =>
    rw [withheld, List.foldl_cons, ← withheld]
    rcases List.mem_cons.1 hf with rfl | hf
    · refine get?_withheld_of_none ?_
      rw [get?_erase (placeIn_ne_nil path f), if_pos rfl]
    · exact ih hf

theorem get?_supplied_of_ne (h : ∀ f ∈ fs, pl ≠ f.placeIn path) :
    (supplied path fs d).get? pl = d.get? pl := by
  induction fs generalizing d with
  | nil => rfl
  | cons g fs ih =>
    obtain ⟨hg, hfs⟩ := List.forall_mem_cons.1 h
    rw [supplied, List.foldl_cons, ← supplied, ih hfs, get?_put (placeIn_ne_nil path g),
      if_neg hg]

theorem get?_supplied_of_mem (hnodup : (fs.map name).Nodup) (hf : f ∈ fs) :
    (supplied path fs d).get? (f.placeIn path) = some (.file f.content) := by
  induction fs generalizing d with
  | nil => exact absurd hf List.not_mem_nil
  | cons g fs ih =>
    obtain ⟨hg, hfs⟩ := List.nodup_cons.1 hnodup
    rw [supplied, List.foldl_cons, ← supplied]
    rcases List.mem_cons.1 hf with rfl | hf
    · rw [get?_supplied_of_ne, get?_put (placeIn_ne_nil path f), if_pos rfl]
      intro g' hg' he
      exact hg (placeIn_inj.1 he ▸ List.mem_map_of_mem hg')
    · exact ih hfs hf

/-- What is not withheld is there. -/
theorem get?_of_withheld {node : Node} (h : (withheld path fs d).get? pl = some node) :
    d.get? pl = some node := by
  by_cases hpl : ∃ f ∈ fs, pl = f.placeIn path
  · obtain ⟨f, hf, rfl⟩ := hpl
    rw [get?_withheld_of_mem hf] at h
    cases h
  · rw [get?_withheld_of_ne fun f hf he => hpl ⟨f, hf, he⟩] at h
    exact h

theorem keepsDirectories_withheld
    (h : ∀ f ∈ fs, d.get? (f.placeIn path) ≠ some .directory) :
    KeepsDirectories d (withheld path fs d) := by
  intro pl hpl
  rw [get?_withheld_of_ne]
  · exact hpl
  · rintro f hf rfl
    exact h f hf hpl

end InputFile

namespace Source

variable {path : Path} {fs : List InputFile} {f : InputFile} {d : Disk} {n : Nat}

theorem Offers.get? (h : Offers path fs d) (hf : f ∈ fs) :
    d.get? (f.placeIn path) = some (.file f.content) := by
  have hread := (read_ok_iff.1 (h.reads f hf)).2
  rw [Path.place_join _ (h.named f hf)] at hread
  exact hread

theorem Offers.get?_ne_directory (h : Offers path fs d) (hf : f ∈ fs) :
    d.get? (f.placeIn path) ≠ some .directory := by
  rw [h.get? hf]
  nofun

/-- The first files have other names than the last. -/
theorem Offers.get?_withheld (h : Offers path fs d) (hf : f ∈ fs.take n) :
    (InputFile.withheld path (fs.drop n) d).get? (f.placeIn path) = d.get? (f.placeIn path) := by
  have hnodup := h.nodup
  rw [← List.take_append_drop n fs, List.map_append] at hnodup
  refine InputFile.get?_withheld_of_ne fun g hg he => ?_
  exact (List.nodup_append.1 hnodup).2.2 _ (List.mem_map_of_mem hf) _ (List.mem_map_of_mem hg)
    (InputFile.placeIn_inj.1 he)

/-- Without the last files the first are listed. -/
theorem Offers.listed_withheld (h : Offers path fs d) (n : Nat) :
    wanted ((InputFile.withheld path (fs.drop n) d).children path.place) =
      (fs.take n).map InputFile.name := by
  have hsorted := pairwise_wanted d path.place
  rw [h.listed] at hsorted
  refine Ascending.eq_of_pairwise (pairwise_wanted _ _)
    (hsorted.sublist ((List.take_sublist n fs).map _)) fun name => ?_
  rw [mem_wanted]
  constructor
  · rintro ⟨node, hg, hinput⟩
    have hname : name ∈ fs.map InputFile.name := by
      rw [← h.listed]
      exact mem_wanted.2 ⟨node, InputFile.get?_of_withheld hg, hinput⟩
    obtain ⟨f, hf, rfl⟩ := List.mem_map.1 hname
    rw [← List.take_append_drop n fs] at hf
    rcases List.mem_append.1 hf with hf | hf
    · exact List.mem_map_of_mem hf
    · have hnone : (InputFile.withheld path (fs.drop n) d).get? (path.place ++ [f.name]) = none :=
        InputFile.get?_withheld_of_mem hf
      rw [hnone] at hg
      cases hg
  · intro hname
    obtain ⟨f, hf, rfl⟩ := List.mem_map.1 hname
    have hwanted : f.name ∈ wanted (d.children path.place) := by
      rw [h.listed]
      exact List.mem_map_of_mem (List.mem_of_mem_take hf)
    obtain ⟨node, hg, hinput⟩ := mem_wanted.1 hwanted
    exact ⟨node, (h.get?_withheld hf).trans hg, hinput⟩

/-- Without the last files the first are offered. -/
theorem Offers.withheld (h : Offers path fs d) (n : Nat) :
    Offers path (fs.take n) (InputFile.withheld path (fs.drop n) d) := by
  have hkeeps : KeepsDirectories d (InputFile.withheld path (fs.drop n) d) :=
    InputFile.keepsDirectories_withheld fun f hf =>
      h.get?_ne_directory (List.mem_of_mem_drop hf)
  refine ⟨h.directory.mono hkeeps, h.listed_withheld n,
    fun f hf => h.named f (List.mem_of_mem_take hf), fun f hf => ?_,
    fun f hf => h.parses f (List.mem_of_mem_take hf)⟩
  obtain ⟨hl, hg⟩ := read_ok_iff.1 (h.reads f (List.mem_of_mem_take hf))
  refine read_ok_iff.2 ⟨locate_mono hkeeps hl, ?_⟩
  rw [Path.place_join _ (h.named f (List.mem_of_mem_take hf))] at hg ⊢
  exact (h.get?_withheld hf).trans hg

end Source

end Quarantine
