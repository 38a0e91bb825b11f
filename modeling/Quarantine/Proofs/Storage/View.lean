import Quarantine.Proofs.Storage.Success
import Quarantine.Storage.Source

/-!
# What a reader sees

A reader looks at directories, at the names in them and at some of the files.  Disks that differ
in other files only are the same to it.

    SameBut at d d'          the same directories, and the same files but for places that satisfy `at`
    Reads s j                the job leaves every disk as it is, whatever the fates
    SameIn s d d' j          the job gives the same on both disks, and changes neither

The rows of the committed batches and the checkpoint are read by such jobs.
-/

namespace Quarantine

/-! ## Disks that differ in some files -/

namespace Disk

/-- That disks have the same directories, and the same files but for some places. -/
def SameBut (at_ : Place → Prop) (d d' : Disk) : Prop :=
  ∀ pl, d'.get? pl = d.get? pl ∨
    at_ pl ∧ d.get? pl ≠ some .directory ∧ d'.get? pl ≠ some .directory

variable {at_ : Place → Prop} {d d' d'' : Disk}

theorem SameBut.refl (at_ : Place → Prop) (d : Disk) : SameBut at_ d d := fun _ => .inl rfl

theorem SameBut.symm (h : SameBut at_ d d') : SameBut at_ d' d :=
  fun pl => (h pl).imp Eq.symm fun ⟨ha, hd, hd'⟩ => ⟨ha, hd', hd⟩

theorem SameBut.trans (h : SameBut at_ d d') (h' : SameBut at_ d' d'') : SameBut at_ d d'' := by
  intro pl
  rcases h' pl with he' | ⟨ha, hd', hd''⟩
  · rw [he']
    exact h pl
  · rcases h pl with he | ⟨-, hd, -⟩
    · exact .inr ⟨ha, he ▸ hd', hd''⟩
    · exact .inr ⟨ha, hd, hd''⟩

theorem SameBut.keepsDirectories (h : SameBut at_ d d') : KeepsDirectories d d' := by
  intro pl hpl
  rcases h pl with he | ⟨-, hd, -⟩
  · rw [he, hpl]
  · exact absurd hpl hd

theorem SameBut.get?_eq (h : SameBut at_ d d') {pl : Place} (hpl : ¬ at_ pl) :
    d'.get? pl = d.get? pl := (h pl).resolve_right fun h => hpl h.1

theorem Partly.sameBut {temp : Place} (h : Partly temp d d') (ha : at_ temp) :
    SameBut at_ d d' := by
  intro pl
  by_cases he : pl = temp
  · subst he
    rcases h.file with hf | ⟨hd, content, hf⟩
    · exact .inl hf
    · exact .inr ⟨ha, hd, fun h => by rw [hf] at h; cases h⟩
  · exact .inl (h.other pl he)

theorem Written.sameBut {path : Path} {content : ByteArray} (h : Written path content d d')
    (ha : at_ path.place) (hat : at_ path.temporary.place) : SameBut at_ d d' := by
  intro pl
  by_cases he : pl = path.place
  · subst he
    exact .inr ⟨ha, h.replaced, fun hd => by rw [h.file] at hd; cases hd⟩
  by_cases het : pl = path.temporary.place
  · subst het
    exact .inr ⟨hat, h.temporary_before, fun hd => by rw [h.temporary] at hd; cases hd⟩
  · exact .inl (h.other pl he het)

/-- Where the directories are there already, none is added. -/
theorem Grown.sameBut {way : Place → Prop} (h : Grown way d d')
    (hway : ∀ pl, way pl → d.get? pl = some .directory) : SameBut at_ d d' := by
  intro pl
  rcases h pl with he | ⟨hw, hnone, -⟩
  · exact .inl he
  · rw [hway pl hw] at hnone
    cases hnone

theorem SameBut.read (h : SameBut at_ d d') {p : Path} {content : ByteArray}
    (hread : d.read p = .ok content) (hpl : ¬ at_ p.place) : d'.read p = .ok content := by
  obtain ⟨hl, hg⟩ := read_ok_iff.1 hread
  exact read_ok_iff.2 ⟨locate_mono h.keepsDirectories hl, by rw [h.get?_eq hpl, hg]⟩

/-- A file stays where directories are added. -/
theorem Grown.read {way : Place → Prop} (h : Grown way d d') {p : Path} {content : ByteArray}
    (hread : d.read p = .ok content) : d'.read p = .ok content := by
  obtain ⟨hl, hg⟩ := read_ok_iff.1 hread
  refine read_ok_iff.2 ⟨locate_mono h.keepsDirectories hl, ?_⟩
  rcases h p.place with he | ⟨-, hnone, -⟩
  · rw [he, hg]
  · rw [hnone] at hg
    cases hg

theorem SameBut.read_eq (h : SameBut at_ d d') {p : Path} {name : String} (hn : Path.IsName name)
    (hwalk : d.walk [] p.names = .ok p.place) (hdir : d.get? p.place = some .directory)
    (hpl : ¬ at_ (p.join name).place) :
    d'.locate (p.join name) = d.locate (p.join name) ∧
      d'.find (p.join name) = d.find (p.join name) := by
  have hwalk' := walk_mono h.keepsDirectories hwalk
  have hdir' := h.keepsDirectories _ hdir
  -- the way in the directory asks for nothing on the disk
  have hlast (e : Disk) : e.walk p.place [name] = d.walk p.place [name] := by
    simp only [Disk.walk, List.isEmpty_nil, if_true]
  have hlocate : d'.locate (p.join name) = d.locate (p.join name) := by
    rw [locate, locate, Path.names_join p hn, walk_concat name hwalk' hdir',
      walk_concat name hwalk hdir, hlast d']
  refine ⟨hlocate, ?_⟩
  rw [find, find, hlocate]
  cases hl : d.locate (p.join name) with
  | error e => rfl
  | ok pl =>
    obtain rfl := locate_eq_place hl
    dsimp only [bind, Except.bind]
    rw [h.get?_eq hpl]

end Disk

/-! ## Jobs that only read -/

namespace Job

open Disk

variable {α β : Type} {s : Surroundings}

/-- That a job leaves every disk as it is. -/
def Reads (s : Surroundings) (j : Job α) : Prop :=
  ∀ d, Job.Ensures s (· = d) (fun _ d' => d' = d) j d

theorem Reads.ensures {j : Job α} (h : Reads s j) {S : Disk → Prop} {Q : α → Disk → Prop}
    {d : Disk} (hs : S d) (hp : ∀ x, Q x d) : Job.Ensures s S Q j d :=
  (h d).mono (fun _ h => h ▸ hs) fun x _ h => h ▸ hp x

/-- A job that only reads leaves the disk as it is, whether it fails or not. -/
theorem Reads.run {j : Job α} (h : Reads s j) (d : Disk) :
    Action.Ensures s (fun _ => True) (fun _ d' => d' = d) j.run d := by
  refine Action.Ensures.mono (h d) (fun _ _ => trivial) fun x d' hx => ?_
  cases x with
  | ok a => exact hx
  | error e => exact hx

theorem reads_pure (x : α) : Reads s (pure x : Job α) := fun _ => ensures_pure rfl

theorem reads_throw (e : Failure) : Reads s (throw e : Job α) := fun _ => ensures_throw rfl

theorem Reads.bind {j : Job α} {f : α → Job β} (h : Reads s j) (hf : ∀ x, Reads s (f x)) :
    Reads s (j >>= f) :=
  fun d => (h d).bind fun x _ he => he ▸ hf x d

theorem reads_liftExcept (r : Except Failure α) : Reads s (liftExcept r) :=
  fun _ => ensures_liftExcept rfl fun _ _ => rfl

theorem reads_ask {o : Operation} (hr : ∀ d : Disk, (d.respond s o).2 = d)
    (hc : ∀ (d : Disk) n, d.cut n o = d) : Reads s (ask o) :=
  fun d => ensures_ask rfl (fun _ _ => hr d) (fun _ _ => hr d) (hc d)

theorem reads_exists? (path : Path) : Reads s (exists? path) :=
  fun _ => ensures_exists? rfl rfl

theorem reads_readText (path : Path) : Reads s (readText path) :=
  fun _ => ensures_readText rfl fun _ _ _ _ => rfl

theorem reads_mapM {f : α → Job β} (hf : ∀ x, Reads s (f x)) (xs : List α) :
    Reads s (xs.mapM f) := by
  induction xs with
  | nil => exact reads_pure []
  | cons x xs ih =>
    rw [List.mapM_cons]
    exact (hf x).bind fun y => ih.bind fun ys => reads_pure _

theorem reads_load (path : Path) : Reads s (Checkpoint.load path) := by
  refine (reads_exists? path).bind fun there => ?_
  split
  · refine (reads_readText path).bind fun text => ?_
    split
    · exact reads_pure _
    · exact reads_throw _
  · exact reads_pure _

theorem reads_readInput (path : Path) (name : String) : Reads s (Source.readInput path name) :=
  (reads_readText _).bind fun _ => reads_liftExcept _

theorem reads_firstColumns (path : Path) (names : List String) :
    Reads s (Source.firstColumns path names) := by
  induction names with
  | nil => exact reads_pure none
  | cons name rest ih =>
    refine (reads_readInput path name).bind fun records => ?_
    cases records with
    | nil => exact ih
    | cons r _ => exact reads_pure (some r.columns)

theorem reads_queue (path : Path) (c : Checkpoint) (pending : Option (List String)) :
    Reads s (Source.queue path c pending) := by
  cases pending with
  | some names => exact reads_pure names
  | none =>
    exact (reads_ask (o := .list path) (fun _ => rfl) fun _ _ => rfl).bind fun found =>
      reads_pure _

theorem reads_readCommitted (t : PartTable) (parse? : String → Option α)
    (committed : Ascending Nat) : Reads s (t.readCommitted parse? committed) := by
  have hnames : Reads s t.names := by
    refine (reads_exists? t.directory).bind fun there => ?_
    split
    · exact (reads_ask (o := .list t.directory) (fun _ => rfl) fun _ _ => rfl).bind
        fun found => reads_pure _
    · exact reads_pure _
  have hpart (id : Nat) : Reads s (t.readPart parse? id) :=
    (reads_ask (o := .read (t.partPath id)) (fun _ => rfl) fun _ _ => rfl).bind
      fun content => reads_liftExcept _
  refine Reads.bind (hnames.bind fun names => reads_pure _) fun ids => ?_
  exact (reads_mapM hpart _).bind fun parts => reads_pure _

end Job

/-- Inferring columns leaves the disk as it is. -/
theorem Source.ensures_inferColumns (c : Checkpoint) (src : Source) {s : Disk.Surroundings}
    (d : Disk) :
    (src.inferColumns c).Ensures s (fun _ => True) (fun _ d' => d' = d) d := by
  cases src with
  | memory batches served => exact Action.ensures_pure rfl
  | directory path pending =>
    refine ((Job.reads_queue path c pending).run d).bind ?_
    rintro (e | names) d' rfl
    · exact Action.ensures_pure rfl
    · refine ((Job.reads_firstColumns path names).run d').bind ?_
      rintro columns d₁ rfl
      exact Action.ensures_pure rfl

/-! ## Jobs that give the same -/

namespace Job

open Disk

variable {α β : Type} {s : Surroundings} {d d' : Disk}

/-- That a job gives the same on two disks, and changes neither. -/
def SameIn (s : Surroundings) (d d' : Disk) (j : Job α) : Prop :=
  ∃ result, j.outcome s d = (result, d) ∧ j.outcome s d' = (result, d')

theorem SameIn.result_eq {j : Job α} (h : SameIn s d d' j) :
    (j.outcome s d').1 = (j.outcome s d).1 := by
  obtain ⟨result, hd, hd'⟩ := h
  rw [hd, hd']

theorem sameIn_pure (x : α) : SameIn s d d' (pure x : Job α) := ⟨.ok x, rfl, rfl⟩

theorem sameIn_liftExcept (r : Except Failure α) : SameIn s d d' (liftExcept r) := by
  cases r with
  | error e => exact ⟨.error e, rfl, rfl⟩
  | ok x => exact ⟨.ok x, rfl, rfl⟩

theorem SameIn.bind {j : Job α} {f : α → Job β} (h : SameIn s d d' j)
    (hf : ∀ x, SameIn s d d' (f x)) : SameIn s d d' (j >>= f) := by
  obtain ⟨result, hd, hd'⟩ := h
  cases result with
  | error e => exact ⟨.error e, by rw [outcome_bind, hd], by rw [outcome_bind, hd']⟩
  | ok x =>
    obtain ⟨result, hx, hx'⟩ := hf x
    exact ⟨result, (outcome_bind_of_outcome hd).trans hx, (outcome_bind_of_outcome hd').trans hx'⟩

theorem sameIn_mapM {f : α → Job β} {xs : List α} (hf : ∀ x ∈ xs, SameIn s d d' (f x)) :
    SameIn s d d' (xs.mapM f) := by
  induction xs with
  | nil => exact sameIn_pure []
  | cons x xs ih =>
    rw [List.mapM_cons]
    exact (hf x List.mem_cons_self).bind fun y =>
      (ih fun z hz => hf z (List.mem_cons_of_mem _ hz)).bind fun ys => sameIn_pure _

theorem sameIn_read {p : Path} (h : d'.find p = d.find p) : SameIn s d d' (ask (.read p)) := by
  refine ⟨(d.read p).mapError Failure.io, rfl, ?_⟩
  have hread : d'.read p = d.read p := by
    unfold Disk.read
    rw [h]
  show ((d'.read p).mapError Failure.io, d') = ((d.read p).mapError Failure.io, d')
  rw [hread]

end Job

open Disk Job

variable {s : Surroundings} {d d' : Disk} {at_ : Place → Prop}

namespace PartTable

variable {t : PartTable}

/-- Files that are not parts of committed batches do not show. -/
theorem sameIn_readCommitted {α : Type} (parse? : String → Option α) {committed : Ascending Nat}
    (hdir : d.HasDirectory t.directory) (h : SameBut at_ d d')
    (hnames : ∀ name, at_ (t.directory.place ++ [name]) →
      ∀ id ∈ partId? name, committed.contains id = false)
    (hparts : ∀ id, committed.contains id = true → ¬ at_ (t.partPath id).place) :
    SameIn s d d' (t.readCommitted parse? committed) := by
  have hdir' := hdir.mono h.keepsDirectories
  have hids (e : Disk) (hdir : e.HasDirectory t.directory) : t.partIds.outcome s e =
      (.ok (.ofList (((e.children t.directory.place).map Prod.fst).filterMap partId?)), e) :=
    outcome_bind_of_outcome (Names.outcome (.inl ⟨hdir, rfl⟩))
  -- the committed ids among the names are the same
  have hfilter : Ascending.filter committed.contains
        (.ofList (((d'.children t.directory.place).map Prod.fst).filterMap partId?)) =
      Ascending.filter committed.contains
        (.ofList (((d.children t.directory.place).map Prod.fst).filterMap partId?)) := by
    have hmem {e e' : Disk} (he : SameBut at_ e e') (id : Nat) (hc : committed.contains id = true)
        (hid : id ∈ ((e.children t.directory.place).map Prod.fst).filterMap partId?) :
        id ∈ ((e'.children t.directory.place).map Prod.fst).filterMap partId? := by
      obtain ⟨name, hname, hid⟩ := List.mem_filterMap.1 hid
      refine List.mem_filterMap.2 ⟨name, ?_, hid⟩
      obtain ⟨node, hg⟩ := Disk.mem_children_iff.1 hname
      refine Disk.mem_children_iff.2 ⟨node, ?_⟩
      rw [he.get?_eq, hg]
      intro ha
      rw [hnames name ha id hid] at hc
      cases hc
    refine Ascending.eq_of_contains fun id => ?_
    rw [Ascending.contains_filter, Ascending.contains_filter, Ascending.contains_ofList,
      Ascending.contains_ofList]
    exact ⟨fun ⟨hid, hc⟩ => ⟨hmem h.symm id hc hid, hc⟩, fun ⟨hid, hc⟩ => ⟨hmem h id hc hid, hc⟩⟩
  have hrest (ids : Ascending Nat) : SameIn s d d'
      ((Ascending.filter committed.contains ids).items.mapM (t.readPart parse?)) := by
    refine sameIn_mapM fun id hid => ?_
    have hc : committed.contains id = true :=
      (Ascending.contains_filter.1 (Ascending.contains_iff.2 hid)).2
    have hfind : d'.find (t.partPath id) = d.find (t.partPath id) :=
      (h.read_eq (isName_partName id) hdir.walk hdir.2 (hparts id hc)).2
    exact (sameIn_read hfind).bind fun content => sameIn_liftExcept _
  obtain ⟨result, hd, hd'⟩ := (hrest (.ofList
    (((d.children t.directory.place).map Prod.fst).filterMap partId?))).bind
      fun parts => sameIn_pure parts.flatten
  refine ⟨result, (outcome_bind_of_outcome (hids d hdir)).trans hd, ?_⟩
  refine (outcome_bind_of_outcome (hids d' hdir')).trans ?_
  simp only [hfilter]
  exact hd'

end PartTable
end Quarantine
