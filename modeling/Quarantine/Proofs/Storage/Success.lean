import Quarantine.Proofs.Storage.Checkpoint
import Quarantine.Proofs.Storage.Layout

/-!
# Jobs that succeed

Where no operation is refused, a job fails only for what is on the disk.

    makeDirectories  succeeds where the directory is there
    writeWhole       succeeds where no directory is in the way
    load             succeeds on a stored checkpoint
    readCommitted    succeeds exactly where the table shows rows
-/

namespace Quarantine

open Quarantine.Disk

/-! ## Ways through directories -/

namespace Disk

variable {d : Disk}

/-- That a place and all places on the way to it are directories. -/
def Open (d : Disk) (pl : Place) : Prop := ∀ up, up <+: pl → d.get? up = some .directory

theorem open_nil (d : Disk) : d.Open [] := by
  intro up h
  rw [List.prefix_nil.1 h]
  exact get?_nil d

theorem Open.dropLast {pl : Place} (h : d.Open pl) : d.Open pl.dropLast :=
  fun up hup => h up (hup.trans (List.dropLast_prefix pl))

theorem Open.concat {pl : Place} {name : String} (h : d.Open pl)
    (hg : d.get? (pl ++ [name]) = some .directory) : d.Open (pl ++ [name]) := by
  intro up hup
  rcases List.prefix_concat_iff.1 hup with rfl | hup
  · exact hg
  · exact h up hup

/-- Names that lead to a place inside a directory lead to the directory. -/
theorem walk_of_append {start pl : Place} {ns tail : List String} (ht : tail ≠ [])
    (hs : d.Open start) (h : d.walk start (ns ++ tail) = .ok pl) :
    d.walk start ns = .ok (Path.resolve start ns) ∧ d.Open (Path.resolve start ns) := by
  induction ns generalizing start with
  | nil => exact ⟨rfl, hs⟩
  | cons first rest ih =>
    rw [List.cons_append, walk] at h
    rw [walk, Path.resolve]
    split at h
    · next hfirst =>
      rw [if_pos hfirst, if_pos hfirst]
      exact ih hs.dropLast h
    · next hfirst =>
      rw [if_neg hfirst, if_neg hfirst]
      split at h
      · cases h
      · next hlong =>
        have hne : (rest ++ tail).isEmpty = false :=
          List.isEmpty_eq_false_iff.2 (List.append_ne_nil_of_right_ne_nil rest ht)
        rw [if_neg hlong]
        simp only [hne, Bool.false_eq_true, if_false] at h
        split at h
        · next hdir =>
          obtain ⟨hwalk, hopen⟩ := ih (hs.concat hdir) h
          refine ⟨?_, hopen⟩
          split
          · next hempty =>
            obtain rfl := List.isEmpty_iff.1 hempty
            rfl
          · simp only [hdir]
            exact hwalk
        · cases h
        · cases h

theorem HasDirectory.walk {p : Path} (h : d.HasDirectory p) : d.walk [] p.names = .ok p.place := by
  have hl := h.1
  unfold locate at hl
  split at hl
  · cases hl
  · exact hl

/-- The way to a directory is through directories. -/
theorem HasDirectory.onWay {p : Path} (h : d.HasDirectory p) {pl : Place} (hpl : p.OnWay pl) :
    d.get? pl = some .directory := by
  obtain ⟨ns, ⟨tail, hnames⟩, rfl⟩ := hpl
  by_cases ht : tail = []
  · rw [ht, List.append_nil] at hnames
    rw [hnames]
    exact h.2
  · have hwalk := h.walk
    rw [← hnames] at hwalk
    exact (walk_of_append ht (open_nil d) hwalk).2 _ (List.prefix_refl _)

/-- A path into a directory leads somewhere only if the directory is there. -/
theorem parent_of_locate {p : Path} {name : String} {pl : Place} (hn : Path.IsName name)
    (h : d.locate (p.join name) = .ok pl) :
    d.walk [] p.names = .ok p.place ∧ d.get? p.place = some .directory := by
  rw [locate, Path.text_join_ne p hn, Path.names_join p hn] at h
  obtain ⟨hwalk, hopen⟩ := walk_of_append (List.cons_ne_nil name []) (open_nil d) h
  exact ⟨hwalk, hopen _ (List.prefix_refl _)⟩

/-- The directory that a directory is in is there. -/
theorem HasDirectory.parent {p : Path} {name : String} (h : d.HasDirectory (p.join name))
    (hn : Path.IsName name) :
    d.walk [] p.names = .ok p.place ∧ d.get? p.place = some .directory := parent_of_locate hn h.1

theorem hasDirectory_of_locate {p : Path} {name file : String} {pl : Place}
    (hn : Path.IsName name) (hf : Path.IsName file)
    (h : d.locate ((p.join name).join file) = .ok pl) : d.HasDirectory (p.join name) := by
  obtain ⟨hwalk, hdir⟩ := parent_of_locate hf h
  refine ⟨?_, hdir⟩
  rw [locate, Path.text_join_ne p hn]
  exact hwalk

theorem create_of_locate {p : Path} (hl : d.locate p = .ok p.place)
    (hg : d.get? p.place ≠ some .directory) :
    d.create p = .ok (d.put p.place (.file .empty)) := by
  rw [create, hl]
  dsimp only [bind, Except.bind]
  split
  · next h => exact absurd h hg
  · rfl

theorem append_of_locate {p : Path} {before : ByteArray} (hl : d.locate p = .ok p.place)
    (hg : d.get? p.place = some (.file before)) (content : ByteArray) :
    d.append p content = .ok (d.put p.place (.file (before ++ content))) := by
  rw [append, find_of_locate hl hg]
  rfl

theorem rename_of_locate {p q : Path} {content : ByteArray} (hl : d.locate p = .ok p.place)
    (hg : d.get? p.place = some (.file content)) (hlq : d.locate q = .ok q.place)
    (hq : d.get? q.place ≠ some .directory) :
    d.rename p q = .ok ((d.erase p.place).put q.place (.file content)) := by
  rw [rename, find_of_locate hl hg]
  dsimp only [bind, Except.bind]
  rw [hlq]
  dsimp only
  split
  · next h => exact absurd h hq
  · rfl

theorem remove_of_locate {p : Path} {content : ByteArray} (hl : d.locate p = .ok p.place)
    (hg : d.get? p.place = some (.file content)) : d.remove p = .ok (d.erase p.place) := by
  rw [remove, find_of_locate hl hg]
  rfl

theorem makeDirectory_of_hasDirectory {p : Path} (h : d.HasDirectory p) :
    d.makeDirectory p = .error .alreadyExists := by
  rw [makeDirectory, h.1]
  dsimp only [bind, Except.bind]
  rw [h.2]
  rfl

end Disk

/-! ## Success -/

namespace Job

section

variable {α β : Type} {s : Surroundings} {d d' : Disk}

/-- What a job gives when no operation is refused, and the disk then. -/
def outcome (s : Surroundings) (j : Job α) (d : Disk) : Except Failure α × Disk :=
  Action.run s j.run d

def Succeeds (s : Surroundings) (j : Job α) (d : Disk) : Prop :=
  ∃ x, (j.outcome s d).1 = .ok x

theorem Ensures.of_outcome {S : Disk → Prop} {Q : α → Disk → Prop} {j : Job α} {x : α}
    (h : Ensures s S Q j d) (hx : j.outcome s d = (.ok x, d')) : Q x d' := by
  have hrun := Action.Ensures.run h
  unfold outcome at hx
  rw [hx] at hrun
  exact hrun

theorem outcome_bind (j : Job α) (f : α → Job β) (d : Disk) : (j >>= f).outcome s d =
    match j.outcome s d with
    | (.ok x, d') => (f x).outcome s d'
    | (.error e, d') => (.error e, d') := by
  unfold outcome
  rw [ExceptT.run_bind, Action.run_bind]
  cases j.run.run s d with
  | mk result d' => cases result <;> rfl

theorem succeeds_pure (x : α) (d : Disk) : Succeeds s (pure x) d := ⟨x, rfl⟩

theorem succeeds_of_outcome {j : Job α} {x : α} (h : j.outcome s d = (.ok x, d')) :
    Succeeds s j d := ⟨x, congrArg Prod.fst h⟩

/-- After a job with a known outcome comes the rest. -/
theorem outcome_bind_of_outcome {j : Job α} {f : α → Job β} {x : α}
    (h : j.outcome s d = (.ok x, d')) : (j >>= f).outcome s d = (f x).outcome s d' := by
  rw [outcome_bind, h]

theorem succeeds_bind_of_outcome {j : Job α} {f : α → Job β} {x : α}
    (h : j.outcome s d = (.ok x, d')) (hf : Succeeds s (f x) d') : Succeeds s (j >>= f) d := by
  unfold Succeeds
  rw [outcome_bind_of_outcome h]
  exact hf

theorem Succeeds.bind {j : Job α} {f : α → Job β} (hj : Succeeds s j d)
    (hf : ∀ x d', j.outcome s d = (.ok x, d') → Succeeds s (f x) d') :
    Succeeds s (j >>= f) d := by
  obtain ⟨x, hx⟩ := hj
  have hpair : j.outcome s d = (.ok x, (j.outcome s d).2) := Prod.ext hx rfl
  exact succeeds_bind_of_outcome hpair (hf x _ hpair)

theorem succeeds_discard {j : Job α} (h : Succeeds s j d) : Succeeds s (discard j) d := by
  show Succeeds s ((fun _ => ()) <$> j) d
  rw [map_eq_pure_bind]
  exact h.bind fun _ d' _ => succeeds_pure () d'

theorem outcome_discard {j : Job α} {x : α} (h : j.outcome s d = (.ok x, d')) :
    (discard j).outcome s d = (.ok (), d') := by
  show ((fun _ => ()) <$> j).outcome s d = _
  rw [map_eq_pure_bind]
  exact outcome_bind_of_outcome h

theorem outcome_ask {o : Operation} {r : o.Reply} (h : d.respond s o = (.ok r, d')) :
    (ask o).outcome s d = (.ok r, d') := by
  show ((d.respond s o).1.mapError Failure.io, (d.respond s o).2) = _
  rw [h]
  rfl

theorem succeeds_forM {f : α → Job Unit} {I : Disk → Prop} {items : List α} (hi : I d)
    (hf : ∀ x ∈ items, ∀ d', I d' → Succeeds s (f x) d' ∧
      ∀ d'', (f x).outcome s d' = (.ok (), d'') → I d'') : Succeeds s (items.forM f) d := by
  induction items generalizing d with
  | nil => exact succeeds_pure () d
  | cons x rest ih =>
    obtain ⟨hx, hinv⟩ := hf x List.mem_cons_self d hi
    refine hx.bind fun u d' h => ih (hinv d' h) fun y hy => hf y (List.mem_cons_of_mem _ hy)

/-- A loop of which each turn leaves the disk as it is does so as a whole. -/
theorem outcome_forM {f : α → Job Unit} {items : List α}
    (hf : ∀ x ∈ items, (f x).outcome s d = (.ok (), d)) :
    (items.forM f).outcome s d = (.ok (), d) := by
  induction items with
  | nil => rfl
  | cons x rest ih =>
    refine (outcome_bind_of_outcome (hf x List.mem_cons_self)).trans ?_
    exact ih fun y hy => hf y (List.mem_cons_of_mem _ hy)

/-- A list of jobs of which each leaves the disk as it is gives what they give. -/
theorem outcome_mapM {f : α → Job β} {g : α → β} {items : List α}
    (hf : ∀ x ∈ items, (f x).outcome s d = (.ok (g x), d)) :
    (items.mapM f).outcome s d = (.ok (items.map g), d) := by
  induction items with
  | nil => rfl
  | cons x rest ih =>
    rw [List.mapM_cons]
    refine (outcome_bind_of_outcome (hf x List.mem_cons_self)).trans ?_
    exact outcome_bind_of_outcome (ih fun y hy => hf y (List.mem_cons_of_mem _ hy))

/-! ### Directories and files -/

/-- Making directories changes nothing where the first one is there. -/
theorem outcome_makeDirectories {paths : List Path} (h : ∀ p ∈ paths.head?, d.HasDirectory p) :
    (makeDirectories paths).outcome s d = (.ok (), d) := by
  cases paths with
  | nil => rfl
  | cons p outer =>
    have hp := h p rfl
    have hattempt : (attempt (.makeDirectory p)).outcome s d =
        (.ok (.error .alreadyExists), d) := by
      show (Except.ok (d.change (d.makeDirectory p)).1, (d.change (d.makeDirectory p)).2) = _
      rw [makeDirectory_of_hasDirectory hp]
      rfl
    have hkind : (isDirectory p).outcome s d = (.ok true, d) := by
      show (Except.ok ((d.inspect p).toOption == some .directory), d) = _
      rw [hasDirectory_iff.1 hp]
      rfl
    rw [makeDirectories]
    exact (outcome_bind_of_outcome hattempt).trans (outcome_bind_of_outcome hkind)

theorem outcome_ensureDirectory {p : Path} {name : String} (hn : Path.IsName name)
    (h : d.HasDirectory (p.join name)) :
    (ensureDirectory (p.join name)).outcome s d = (.ok (), d) := by
  refine outcome_makeDirectories fun q hq => ?_
  rw [Path.ancestors_join p hn] at hq
  obtain rfl := Option.some.inj hq
  have hnames : Path.AreNames (p.names ++ [name]) := by
    rw [← Path.names_join p hn]
    exact Path.areNames_names _
  refine h.of_names ?_ (Path.text_ofNames_ne (by simp) hnames)
  rw [Path.names_join p hn, Path.names_ofNames hnames]

theorem outcome_makeParents {p : Path} {name : String} (hn : Path.IsName name)
    (h : d.HasDirectory (p.join name)) :
    (makeDirectories p.ancestors).outcome s d = (.ok (), d) := by
  refine outcome_makeDirectories fun q hq => ?_
  obtain ⟨hwalk, hdir⟩ := h.parent hn
  cases hnames : p.names with
  | nil =>
    rw [Path.ancestors, hnames] at hq
    cases hq
  | cons first rest =>
    have hfirst : p.ancestors.head? = some (Path.ofNames p.names) := by
      rw [Path.ancestors, hnames, List.length_cons, List.range_succ_eq_map, List.map_cons,
        List.head?_cons, Nat.sub_zero, ← List.length_cons, List.take_length]
    rw [hfirst] at hq
    obtain rfl := Option.some.inj hq
    have hare := Path.areNames_names p
    have hne : p.names ≠ [] := by rw [hnames]; exact List.cons_ne_nil _ _
    rw [HasDirectory, locate, Path.text_ofNames_ne hne hare, Path.place, Path.names_ofNames hare]
    exact ⟨hwalk, hdir⟩

/-- A file is written where no directory is in the way. -/
theorem succeeds_writeWhole {p : Path} {content : String} (hl : d.locate p = .ok p.place)
    (hlt : d.locate p.temporary = .ok p.temporary.place)
    (hne : p.temporary.place ≠ p.place) (hg : d.get? p.place ≠ some .directory)
    (hgt : d.get? p.temporary.place ≠ some .directory) :
    Succeeds s (writeWhole p content) d := by
  have htne := ne_nil_of_get?_ne hgt
  -- the disk after the file was made, and after it was filled
  have hcreate := create_of_locate hlt hgt
  generalize hd₁ : d.put p.temporary.place (.file .empty) = d₁ at hcreate
  have hk₁ : KeepsDirectories d d₁ := hd₁ ▸ keepsDirectories_put hgt
  have hget₁ : d₁.get? p.temporary.place = some (.file .empty) := by
    rw [← hd₁, get?_put htne, if_pos rfl]
  have happend := append_of_locate (locate_mono hk₁ hlt) hget₁ content.toUTF8
  generalize hd₂ : d₁.put p.temporary.place (.file (.empty ++ content.toUTF8)) = d₂ at happend
  have hk₂ : KeepsDirectories d₁ d₂ := append_keepsDirectories happend
  have hget₂ : d₂.get? p.temporary.place = some (.file (.empty ++ content.toUTF8)) := by
    rw [← hd₂, get?_put htne, if_pos rfl]
  have hother : d₂.get? p.place = d.get? p.place := by
    rw [← hd₂, get?_put htne, if_neg (Ne.symm hne), ← hd₁, get?_put htne, if_neg (Ne.symm hne)]
  have hrename := rename_of_locate (q := p) (locate_mono (hk₁.trans hk₂) hlt) hget₂
    (locate_mono (hk₁.trans hk₂) hl) (hother ▸ hg)
  have hchange {d₀ d' : Disk} {r : Except SystemError Disk} (h : r = .ok d') :
      d₀.change r = (.ok (), d') := by
    rw [h]
    rfl
  refine succeeds_bind_of_outcome (outcome_ask (o := .create p.temporary) (hchange hcreate)) ?_
  refine succeeds_bind_of_outcome (outcome_ask (o := .append p.temporary content.toUTF8)
    (hchange happend)) ?_
  exact succeeds_of_outcome (outcome_ask (o := .rename p.temporary p) (hchange hrename))

theorem outcome_read {p : Path} {content : ByteArray} (hr : d.read p = .ok content) :
    (ask (.read p)).outcome s d = (.ok content, d) := by
  refine outcome_ask (o := .read p) ?_
  show (d.read p, d) = _
  rw [hr]
  rfl

theorem outcome_readText {p : Path} {content : ByteArray} {text : String}
    (hr : d.read p = .ok content) (ht : String.fromUTF8? content = some text) :
    (readText p).outcome s d = (.ok text, d) := by
  refine (outcome_bind_of_outcome (outcome_read hr)).trans ?_
  rw [ht]
  rfl

end

end Job

section

variable {s : Surroundings} {d : Disk}

open Job

/-- A path into a directory that is there leads somewhere. -/
theorem Disk.HasDirectory.locate_join {p : Path} (h : d.HasDirectory p) {name : String}
    (hn : Path.IsName name) (hl : name.utf8ByteSize ≤ longestName) :
    d.locate (p.join name) = .ok (p.join name).place := by
  rw [Path.place_join p hn]
  exact Disk.locate_join hn hl h.walk h.2

/-- A part is written to a table that is there, where no directory is in the way. -/
theorem PartTable.succeeds_writePart {t : PartTable} {p : Path} {name : String}
    (hn : Path.IsName name) (ht : t.directory = p.join name) (h : d.HasDirectory t.directory)
    {id : Nat} (hid : id < 0x10000000000000000)
    (hg : d.get? (t.partPath id).place ≠ some .directory)
    (hgt : d.get? (t.partPath id).temporary.place ≠ some .directory)
    (rows : List Json.Value) : Succeeds s (t.writePart id rows) d := by
  unfold writePart
  cases rows with
  | nil => exact succeeds_pure none d
  | cons row rows =>
    have hmake : (ensureDirectory t.directory).outcome s d = (.ok (), d) := by
      rw [ht] at h ⊢
      exact outcome_ensureDirectory hn h
    have hpart := utf8ByteSize_partName (Nat.le_of_lt hid)
    have htemporary := utf8ByteSize_temporaryName (Nat.le_of_lt hid)
    have hl : d.locate (t.partPath id) = .ok (t.partPath id).place :=
      h.locate_join (isName_partName id) (by unfold longestName; omega)
    have hlt : d.locate (t.partPath id).temporary = .ok (t.partPath id).temporary.place := by
      rw [temporary_partPath]
      exact h.locate_join (isName_temporaryName id) (by unfold longestName; omega)
    refine succeeds_bind_of_outcome hmake ?_
    refine (succeeds_writeWhole hl hlt (place_temporary_ne t id) hg hgt).bind fun _ d' _ => ?_
    exact succeeds_pure _ d'

namespace PartTable

variable {t : PartTable}

theorem Names.outcome {names : List String} (h : t.Names d names) :
    t.names.outcome s d = (.ok names, d) := by
  have hexists : (exists? t.directory).outcome s d =
      (.ok (d.inspect t.directory).toOption.isSome, d) := rfl
  refine (outcome_bind_of_outcome hexists).trans ?_
  rcases h with ⟨hdir, rfl⟩ | ⟨hnone, rfl⟩
  · have hlist : (ask (.list t.directory)).outcome s d =
        (.ok (d.children t.directory.place), d) :=
      outcome_ask (o := .list t.directory) (Prod.ext (list_of_hasDirectory hdir) rfl)
    rw [hasDirectory_iff.1 hdir]
    exact outcome_bind_of_outcome hlist
  · cases hi : d.inspect t.directory with
    | ok k => exact absurd hi (hnone k)
    | error e => rfl

variable {α : Type} {parse? : String → Option α} {committed : Ascending Nat} {rows : List α}

theorem outcome_readPart {id : Nat} (h : t.rowsIn parse? d id = .ok rows) :
    (t.readPart parse? id).outcome s d = (.ok rows, d) := by
  rw [rowsIn] at h
  split at h
  · next content hr =>
    refine (outcome_bind_of_outcome (outcome_read hr)).trans ?_
    rw [h]
    rfl
  · cases h

/-- That a file in the directory of a table can be removed by its name. -/
structure Removable (t : PartTable) (d : Disk) (name : String) : Prop where
  isName : Path.IsName name
  short : name.utf8ByteSize ≤ longestName
  file : ∃ content, d.get? (t.directory.place ++ [name]) = some (.file content)

theorem succeeds_removeAll {names : List String} (hd : names.Nodup)
    (hdir : d.HasDirectory t.directory) (h : ∀ name ∈ names, t.Removable d name) :
    Succeeds s (names.forM fun name => Job.ask (.remove (t.directory.join name))) d := by
  induction names generalizing d with
  | nil => exact succeeds_pure () d
  | cons name rest ih =>
    obtain ⟨hname, hshort, content, hg⟩ := h name List.mem_cons_self
    obtain ⟨hnot, hrest⟩ := List.nodup_cons.1 hd
    rw [← Path.place_join _ hname] at hg
    have hremove := remove_of_locate (hdir.locate_join hname hshort) hg
    have hresponds : d.respond s (.remove (t.directory.join name)) =
        (.ok (), d.erase (t.directory.join name).place) := by
      show d.change (d.remove (t.directory.join name)) = _
      rw [hremove]
      rfl
    refine succeeds_bind_of_outcome (outcome_ask hresponds) (ih hrest ?_ fun other ho => ?_)
    · refine hdir.mono (keepsDirectories_erase ?_)
      rw [hg]
      exact nofun
    · obtain ⟨hother, hlong, bytes, hb⟩ := h other (List.mem_cons_of_mem _ ho)
      refine ⟨hother, hlong, bytes, ?_⟩
      rw [get?_erase (ne_nil_of_file hg), if_neg, hb]
      rw [Path.place_join _ hname]
      intro he
      have he : other = name := List.singleton_inj.1 (List.append_cancel_left he)
      exact hnot (he ▸ ho)

/-- What is of no use is discarded if it is files with proper names. -/
theorem succeeds_discardUncommitted {committed : Ascending Nat} (hdir : d.HasDirectory t.directory)
    (h : ∀ name, t.Discarded committed d name → t.Removable d name) :
    Succeeds s (t.discardUncommitted committed) d := by
  refine succeeds_bind_of_outcome (Names.outcome (.inl ⟨hdir, rfl⟩)) ?_
  refine (succeeds_removeAll ?_ hdir fun name hm => ?_).bind fun _ d' _ => succeeds_pure _ d'
  · exact ((pairwise_children d _).imp fun hlt => Std.ne_of_lt hlt).filter _
  · obtain ⟨hm, hstale⟩ := List.mem_filter.1 hm
    exact h name ⟨hstale, hm⟩

/-- The rows that a disk shows are read. -/
theorem Shows.outcome (h : t.Shows parse? committed d rows) :
    (t.readCommitted parse? committed).outcome s d = (.ok rows, d) := by
  obtain ⟨names, ids, part, hnames, hids, hmem, hpart, rfl⟩ := h
  have hfound : t.partIds.outcome s d = (.ok (.ofList (names.filterMap partId?)), d) :=
    outcome_bind_of_outcome hnames.outcome
  have hsame : (Ascending.filter committed.contains (.ofList (names.filterMap partId?))).items =
      ids := by
    refine Ascending.eq_of_pairwise (Ascending.ascends _) hids fun id => ?_
    rw [hmem, ← Ascending.contains_iff, Ascending.contains_filter, Ascending.contains_ofList,
      List.mem_filterMap, and_comm]
  refine (outcome_bind_of_outcome hfound).trans ?_
  dsimp only
  rw [hsame, List.flatMap_def]
  exact outcome_bind_of_outcome (outcome_mapM fun id hid => outcome_readPart (hpart id hid))

/-- Reading a table fails exactly where the disk shows no rows. -/
theorem succeeds_readCommitted_iff : Succeeds s (t.readCommitted parse? committed) d ↔
    ∃ rows, t.Shows parse? committed d rows := by
  constructor
  · rintro ⟨rows, hrows⟩
    exact ⟨rows, (ensures_readCommitted_shows (S := fun _ => True) (Q := fun rows _ =>
      t.Shows parse? committed d rows) trivial fun _ h => h).of_outcome (Prod.ext hrows rfl)⟩
  · rintro ⟨rows, h⟩
    exact succeeds_of_outcome h.outcome

end PartTable

/-- A checkpoint is saved where the tables are there and no directory is in the way. -/
theorem Layout.succeeds_saveCheckpoint {l : Layout} (c : Checkpoint)
    (h : d.HasDirectory l.clean.directory)
    (hg : d.get? (l.placeOf .checkpoint) ≠ some .directory)
    (hgt : d.get? (l.placeOf .unfinishedCheckpoint) ≠ some .directory) :
    Succeeds s (c.save l.checkpoint) d := by
  obtain ⟨hwalk, hdir⟩ := h.parent (by decide)
  have htemporary : l.checkpoint.temporary = l.root.join "_checkpoint.json.tmp" :=
    Path.temporary_join _ (by decide) (by decide)
  have hl : d.locate l.checkpoint = .ok l.checkpoint.place := by
    rw [place_checkpoint]
    exact locate_join (by decide) (by decide) hwalk hdir
  have hlt : d.locate l.checkpoint.temporary = .ok l.checkpoint.temporary.place := by
    rw [place_unfinishedCheckpoint, htemporary]
    exact locate_join (by decide) (by decide) hwalk hdir
  rw [← place_checkpoint] at hg
  rw [← place_unfinishedCheckpoint] at hgt
  have hne : l.checkpoint.temporary.place ≠ l.checkpoint.place := by
    rw [place_unfinishedCheckpoint, place_checkpoint]
    exact fun he => nomatch placeOf_inj.1 he
  have hmake : (makeDirectories l.checkpoint.parents).outcome s d = (.ok (), d) := by
    rw [checkpoint, Path.parents_join _ (by decide)]
    exact outcome_makeParents (by decide) h
  exact succeeds_bind_of_outcome hmake (succeeds_writeWhole hl hlt hne hg hgt)

/-- The checkpoint that a disk gives is loaded. -/
theorem Checkpoint.load_of_foundAt {c : Checkpoint} {path : Path} (hc : c.FoundAt path d) :
    (Checkpoint.load path).outcome s d = (.ok c, d) := by
  have hexists : (exists? path).outcome s d = (.ok (d.inspect path).toOption.isSome, d) := rfl
  refine (outcome_bind_of_outcome hexists).trans ?_
  rcases hc with ⟨content, text, hread, ht, hparse⟩ | ⟨rfl, hnone⟩
  · obtain ⟨hl, hg⟩ := read_ok_iff.1 hread
    rw [inspect_of_locate hl hg]
    refine (outcome_bind_of_outcome (outcome_readText hread ht)).trans ?_
    rw [hparse]
    rfl
  · cases hi : d.inspect path with
    | ok k => exact absurd hi (hnone k)
    | error e => rfl

/-- A stored checkpoint is loaded. -/
theorem Checkpoint.load_of_storedAt {c : Checkpoint} {path : Path} (hc : c.StoredAt path d)
    (h64 : ∀ n ∈ c.batches.items, n < 0x10000000000000000) :
    (Checkpoint.load path).outcome s d = (.ok c, d) := load_of_foundAt (hc.foundAt h64)

end

end Quarantine
