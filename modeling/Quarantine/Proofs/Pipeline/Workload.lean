import Quarantine.Proofs.Pipeline.Runner

/-!
# What stands on the disk between attempts

A workload is a rule set, a time, a root and the files of a directory.  Whatever was attempted
and wherever it stopped, the disk stands at some number `n` of committed files:

    checkpoint       of the first n files
    parts k < n      complete, with the rows of file k
    part n           perhaps, of a batch that was not committed
    temporary files  perhaps

and nothing else under the root.  Elsewhere there may be directories more than at the start.
-/

namespace Quarantine

open Quarantine.Disk Quarantine.Json

/-! ## Roots -/

namespace Path

/-- That a place is under a path. -/
def Below (root : Path) (pl : Place) : Prop := ∃ ns, ns ≠ [] ∧ pl = root.place ++ ns

theorem resolve_of_no_parent {ns : List String} (h : ".." ∉ ns) (start : Place) :
    resolve start ns = start ++ ns := by
  induction ns generalizing start with
  | nil => exact (List.append_nil start).symm
  | cons name ns ih =>
    have hname : name ≠ ".." := by
      rintro rfl
      exact h List.mem_cons_self
    rw [resolve, if_neg hname, ih fun hm => h (List.mem_cons_of_mem _ hm), List.append_assoc]
    rfl

end Path

theorem Layout.below_placeOf (l : Layout) (a : Slot) : l.root.Below (l.placeOf a) :=
  ⟨a.names, a.names_ne_nil, rfl⟩

/-- That nothing is under a root, and that the way to it does not lead there either. -/
structure EmptyRoot (d : Disk) (root : Path) : Prop where
  nothing : ∀ pl, root.Below pl → d.get? pl = none
  way : ∀ pl, root.OnWay pl → ¬ root.Below pl

/-- The way to a root leads under it only by way of "..". -/
theorem emptyRoot_of_no_parent {d : Disk} {root : Path} (h : ".." ∉ root.names)
    (hn : ∀ pl, root.Below pl → d.get? pl = none) : EmptyRoot d root := by
  refine ⟨hn, ?_⟩
  rintro pl ⟨ns, hfront, rfl⟩ ⟨ms, hms, he⟩
  have hns : ".." ∉ ns := fun hm => h (hfront.subset hm)
  rw [Path.place, Path.resolve_of_no_parent hns, Path.resolve_of_no_parent h,
    List.nil_append, List.nil_append] at he
  have hlength := hfront.length_le
  rw [he, List.length_append] at hlength
  exact hms (List.length_eq_zero_iff.1 (by omega))

/-! ## Slots under a root -/

namespace Layout

variable {l : Layout} {P : Slot → Node → Prop} {d d' : Disk}

/-- That what is under a root is at slots where it may be. -/
def Allows (l : Layout) (P : Slot → Node → Prop) (d : Disk) : Prop :=
  ∀ pl node, l.root.Below pl → d.get? pl = some node → ∃ a, pl = l.placeOf a ∧ P a node

/-- A node at a slot is one that may be there. -/
theorem Allows.of_get? (h : l.Allows P d) {a : Slot} {node : Node}
    (hg : d.get? (l.placeOf a) = some node) : P a node := by
  obtain ⟨b, hb, hp⟩ := h _ node (l.below_placeOf a) hg
  rw [placeOf_inj.1 hb]
  exact hp

/-- What is in the directory of a table is a part, complete or not. -/
theorem Allows.of_child (h : l.Allows P d) {k : TableKind} {name : String} {node : Node}
    (hg : d.get? ((l.table k).directory.place ++ [name]) = some node) :
    (∃ id, name = PartTable.partName id ∧ P (.part k id) node) ∨
      ∃ id, name = PartTable.temporaryName id ∧ P (.unfinished k id) node := by
  rw [place_table, List.append_assoc] at hg
  have hbelow : l.root.Below (l.root.place ++ (k.names ++ [name])) :=
    ⟨k.names ++ [name], by simp, rfl⟩
  obtain ⟨a, ha, hp⟩ := h _ node hbelow hg
  rcases Slot.eq_of_names_eq_concat (List.append_cancel_left ha).symm with
    ⟨id, rfl, hname⟩ | ⟨id, rfl, hname⟩
  · exact .inl ⟨id, hname, hp⟩
  · exact .inr ⟨id, hname, hp⟩

/-- A table is a directory, or there is nothing at its place. -/
theorem Allows.exists_names (h : l.Allows P d) {k : TableKind}
    (hdir : ∀ node, P (.directory k) node → node = .directory) :
    ∃ names, (l.table k).Names d names := by
  cases hi : d.inspect (l.table k).directory with
  | error e =>
    refine ⟨[], .inr ⟨fun kind hkind => ?_, rfl⟩⟩
    rw [hi] at hkind
    cases hkind
  | ok kind =>
    obtain ⟨hl, node, hg, -⟩ := inspect_ok hi
    have hnode : node = .directory := by
      rw [l.place_directory] at hg
      exact hdir node (h.of_get? hg)
    exact ⟨_, .inl ⟨⟨hl, hnode ▸ hg⟩, rfl⟩⟩

/-- A name with the number of a part is that of the part, and it is there. -/
theorem Allows.of_name (h : l.Allows P d) {k : TableKind} {names : List String}
    (hnames : (l.table k).Names d names) {name : String} (hname : name ∈ names) {id : Nat}
    (hid : PartTable.partId? name = some id) :
    ∃ node, d.get? (l.placeOf (.part k id)) = some node := by
  rcases hnames with ⟨-, rfl⟩ | ⟨-, rfl⟩
  · obtain ⟨node, hg⟩ := mem_children_iff.1 hname
    rcases h.of_child hg with ⟨other, rfl, -⟩ | ⟨other, rfl, -⟩
    · obtain rfl := PartTable.eq_of_partId?_partName hid
      rw [← PartTable.place_partPath, l.place_part] at hg
      exact ⟨node, hg⟩
    · rw [PartTable.partId?_temporaryName] at hid
      cases hid
  · exact absurd hname List.not_mem_nil

/-! ### Changes -/

/-- What changed at slots may be there, and elsewhere under the root nothing changed. -/
theorem Allows.change (h : l.Allows P d) (hc : ∀ pl, d'.get? pl = d.get? pl ∨ ¬ l.root.Below pl ∨
    ∃ a, pl = l.placeOf a ∧ ∀ node, d'.get? pl = some node → P a node) : l.Allows P d' := by
  intro pl node hb hg
  rcases hc pl with he | hnot | ⟨a, ha, hp⟩
  · exact h pl node hb (he ▸ hg)
  · exact absurd hb hnot
  · exact ⟨a, ha, hp node hg⟩

/-- Where nothing changed at some slots, what is at them is read as before. -/
theorem read_of_unchanged {Fixed : Slot → Prop} (hk : KeepsDirectories d d')
    (hc : ∀ pl, d'.get? pl = d.get? pl ∨ ¬ l.root.Below pl ∨ ∃ a, pl = l.placeOf a ∧ ¬ Fixed a)
    {a : Slot} (ha : Fixed a) {path : Path} (hplace : path.place = l.placeOf a)
    {content : ByteArray} (hr : d.read path = .ok content) : d'.read path = .ok content := by
  obtain ⟨hl, hg⟩ := read_ok_iff.1 hr
  refine read_ok_iff.2 ⟨locate_mono hk hl, ?_⟩
  rcases hc path.place with he | hb | ⟨b, hb, hnot⟩
  · rw [he, hg]
  · exact absurd (hplace ▸ l.below_placeOf a) hb
  · rw [hplace, placeOf_inj] at hb
    exact absurd (hb ▸ ha) hnot

/-- Directories are added on the way to the root, or they are the system's and those of tables. -/
theorem grown_cases (h : Grown l.OnWay d d') (pl : Place) : d'.get? pl = d.get? pl ∨
    (l.root.OnWay pl ∧ d.get? pl = none ∧ d'.get? pl = some .directory) ∨
    ∃ a, (a = .system ∨ ∃ k, a = .directory k) ∧ pl = l.placeOf a ∧
      d'.get? pl = some .directory := by
  rcases h pl with he | ⟨hway, hnone, hdir⟩
  · exact .inl he
  · rcases onWay_cases hway with hroot | rfl | ⟨k, rfl⟩
    · exact .inr (.inl ⟨hroot, hnone, hdir⟩)
    · exact .inr (.inr ⟨_, .inl rfl, rfl, hdir⟩)
    · exact .inr (.inr ⟨_, .inr ⟨k, rfl⟩, rfl, hdir⟩)

/-- What is discarded is parts that are not committed, and those that are not complete. -/
theorem Allows.pruned_cases (h : l.Allows P d) {committed : Ascending Nat}
    (hp : PartTable.Pruned (l.StaleAt committed d) d d') (pl : Place) :
    d'.get? pl = d.get? pl ∨ d'.get? pl = none ∧
      ((∃ k id node, pl = l.placeOf (.part k id) ∧ P (.part k id) node ∧
        PartTable.isStale committed (PartTable.partName id) = true) ∨
        ∃ k id, pl = l.placeOf (.unfinished k id)) := by
  rcases hp pl with he | ⟨⟨k, name, ⟨hstale, hchild⟩, rfl⟩, -, hnone⟩
  · exact .inl he
  · refine .inr ⟨hnone, ?_⟩
    obtain ⟨node, hg⟩ := mem_children_iff.1 hchild
    rcases h.of_child hg with ⟨id, rfl, hnode⟩ | ⟨id, rfl, -⟩
    · have hplace := l.place_part k id
      rw [PartTable.partPath] at hplace
      exact .inl ⟨k, id, node, hplace, hnode, hstale⟩
    · have hplace := l.place_unfinished k id
      rw [PartTable.temporary_partPath] at hplace
      exact .inr ⟨k, id, hplace⟩

/-- Saving a checkpoint changes its file and the one beside it. -/
theorem get?_of_saved {content : ByteArray} (h : Written l.checkpoint content d d') {pl : Place}
    (h1 : pl ≠ l.placeOf .checkpoint) (h2 : pl ≠ l.placeOf .unfinishedCheckpoint) :
    d'.get? pl = d.get? pl := by
  refine h.other pl ?_ ?_
  · rw [place_checkpoint]
    exact h1
  · rw [place_unfinishedCheckpoint]
    exact h2

theorem read_part_of_saved {content : ByteArray} (h : Written l.checkpoint content d d')
    {k : TableKind} {id : Nat} {bytes : ByteArray}
    (hr : d.read ((l.table k).partPath id) = .ok bytes) :
    d'.read ((l.table k).partPath id) = .ok bytes := by
  obtain ⟨hl, hg⟩ := read_ok_iff.1 hr
  refine read_ok_iff.2 ⟨locate_mono h.keepsDirectories hl, ?_⟩
  rw [place_part] at hg ⊢
  rw [get?_of_saved h, hg]
  · exact fun he => nomatch placeOf_inj.1 he
  · exact fun he => nomatch placeOf_inj.1 he

end Layout

/-! ## Workloads -/

/-- What stays the same over all attempts. -/
structure Workload where
  rules : RuleSet
  /-- The time of every batch. -/
  time : Instant
  layout : Layout
  /-- The directory of the input files. -/
  input : Path
  /-- The input files in the order of their names, with their records. -/
  files : List (String × List Record)
  /-- The disk before the first attempt. -/
  start : Disk

namespace Workload

/-- That the files are those of the directory and the root is empty. -/
structure Sound (w : Workload) : Prop where
  listed : ∃ found, w.start.list w.input = .ok found ∧ Source.wanted found = w.files.map Prod.fst
  holds : ∀ f ∈ w.files, Source.FileHolds w.start (w.input.join f.1) f.2
  small : w.files.length ≤ 0x10000000000000000
  empty : EmptyRoot w.start w.layout.root

def names (w : Workload) : List String := w.files.map Prod.fst

/-- The events of the first `n` files. -/
def history (w : Workload) (n : Nat) : List Event :=
  eventsOf w.rules w.time ((w.files.take n).map Prod.snd)

def recordsAt (w : Workload) (id : Nat) : List Record := (w.files[id]?.map Prod.snd).getD []

/-- The outcome of a file, after all files before it. -/
def outcomeAt (w : Workload) (id : Nat) (entryId : String) : BatchOutcome :=
  .after w.rules w.time (w.history id) entryId (w.recordsAt id)

/-- The checkpoint of the first `n` files. -/
def checkpointAt (w : Workload) (n : Nat) : Checkpoint := .after (w.names.take n) w.time

/-- The content of a part. -/
def partOf (w : Workload) (k : TableKind) (id : Nat) (entryId : String) : ByteArray :=
  (Rows.render ((w.outcomeAt id entryId).rows k)).toUTF8

variable {w : Workload} {n : Nat} {d d' : Disk}

theorem length_names (w : Workload) : w.names.length = w.files.length := List.length_map _

theorem length_take_names (h : n ≤ w.files.length) : (w.names.take n).length = n := by
  rw [List.length_take, length_names]
  omega

theorem drop_names (w : Workload) (n : Nat) : w.names.drop n = (w.files.drop n).map Prod.fst :=
  List.map_drop.symm

theorem next_checkpointAt (h : n ≤ w.files.length) : (w.checkpointAt n).next = n := by
  rw [checkpointAt, Checkpoint.next_after, length_take_names h]

theorem contains_checkpointAt (h : n ≤ w.files.length) {id : Nat} :
    (w.checkpointAt n).batches.contains id = true ↔ id < n := by
  rw [checkpointAt, Checkpoint.contains_after, length_take_names h]

theorem take_files_succ {f : String × List Record} {rest : List (String × List Record)}
    (h : w.files.drop n = f :: rest) : w.files.take (n + 1) = w.files.take n ++ [f] := by
  have hget : w.files[n]? = some f := by
    rw [← List.head?_drop, h, List.head?_cons]
  rw [List.take_add_one, hget]
  rfl

theorem recordsAt_of_drop {f : String × List Record} {rest : List (String × List Record)}
    (h : w.files.drop n = f :: rest) : w.recordsAt n = f.2 := by
  rw [recordsAt, ← List.head?_drop, h]
  rfl

theorem lt_of_drop {f : String × List Record} {rest : List (String × List Record)}
    (h : w.files.drop n = f :: rest) : n < w.files.length := by
  refine Nat.lt_of_not_le fun hle => ?_
  rw [List.drop_eq_nil_of_le hle] at h
  cases h

theorem checkpointAt_succ {f : String × List Record} {rest : List (String × List Record)}
    (h : w.files.drop n = f :: rest) :
    w.checkpointAt (n + 1) = (w.checkpointAt n).commit n f.1 w.time := by
  have hlength := length_take_names (Nat.le_of_lt (lt_of_drop h))
  rw [checkpointAt, checkpointAt, names, ← List.map_take, take_files_succ h, List.map_append,
    List.map_singleton, Checkpoint.after_append, List.map_take, ← names, hlength]

theorem history_succ {f : String × List Record} {rest : List (String × List Record)}
    (h : w.files.drop n = f :: rest) (entryId : String) :
    w.history (n + 1) = w.history n ++ (w.outcomeAt n entryId).events := by
  rw [history, take_files_succ h, List.map_append, List.map_singleton, eventsOf,
    List.flatMap_append, List.flatMap_singleton, outcomeAt, BatchOutcome.events_after,
    recordsAt_of_drop h]
  rfl

/-! ## What stands -/

/-- What may be at a slot. -/
def Permits (w : Workload) (n : Nat) : Slot → Node → Prop
  | .directory _, node | .system, node => node = .directory
  | .part k id, node => id ≤ n ∧ id < w.files.length ∧ ∃ entryId,
      (w.outcomeAt id entryId).rows k ≠ [] ∧ node = .file (w.partOf k id entryId)
  | .unfinished _ id, node => id ≤ n ∧ ∃ content, node = .file content
  | .unfinishedCheckpoint, node => ∃ content, node = .file content
  | .checkpoint, node => 0 < n ∧ node = .file (w.checkpointAt n).render.toUTF8

/-- The slots at which something is committed. -/
def Fixed (n : Nat) : Slot → Prop
  | .part _ id => id < n
  | .checkpoint => True
  | _ => False

/-- That the disk stands at `n` committed files. -/
structure Stands (w : Workload) (n : Nat) (d : Disk) : Prop where
  bounded : n ≤ w.files.length
  outside : ∀ pl, ¬ w.layout.root.Below pl → d.get? pl = w.start.get? pl ∨
    w.start.get? pl = none ∧ d.get? pl = some .directory
  below : ∀ pl node, w.layout.root.Below pl → d.get? pl = some node →
    ∃ a, pl = w.layout.placeOf a ∧ w.Permits n a node
  parts : ∀ id, id < n → ∃ entryId, ∀ k, (w.outcomeAt id entryId).rows k ≠ [] →
    d.read ((w.layout.table k).partPath id) = .ok (w.partOf k id entryId)
  checkpoint : 0 < n → d.read w.layout.checkpoint = .ok (w.checkpointAt n).render.toUTF8

theorem Sound.stands (hw : w.Sound) : w.Stands 0 w.start where
  bounded := Nat.zero_le _
  outside _ _ := .inl rfl
  below pl node hb hg := by
    rw [hw.empty.nothing pl hb] at hg
    cases hg
  parts id h := absurd h (Nat.not_lt_zero id)
  checkpoint h := absurd h (Nat.not_lt_zero 0)

/-- A node at a slot is one that may be there. -/
theorem Stands.permits (h : w.Stands n d) {a : Slot} {node : Node}
    (hg : d.get? (w.layout.placeOf a) = some node) : w.Permits n a node :=
  Layout.Allows.of_get? h.below hg

theorem Stands.keepsDirectories (hw : w.Sound) (h : w.Stands n d) :
    KeepsDirectories w.start d := by
  intro pl hpl
  have hb : ¬ w.layout.root.Below pl := by
    intro hb
    rw [hw.empty.nothing pl hb] at hpl
    cases hpl
  rcases h.outside pl hb with he | ⟨hn, -⟩
  · rw [he, hpl]
  · rw [hn] at hpl
    cases hpl

/-- A disk that changed only where nothing is committed, and there as it may, stands as before. -/
theorem Stands.change (h : w.Stands n d) (hk : KeepsDirectories d d')
    (hc : ∀ pl, d'.get? pl = d.get? pl ∨
      (¬ w.layout.root.Below pl ∧ d.get? pl = none ∧ d'.get? pl = some .directory) ∨
      ∃ a, pl = w.layout.placeOf a ∧ ¬ Fixed n a ∧
        ∀ node, d'.get? pl = some node → w.Permits n a node) : w.Stands n d' := by
  have hfixed {a : Slot} (ha : Fixed n a) {path : Path} {content : ByteArray}
      (hplace : path.place = w.layout.placeOf a) (hr : d.read path = .ok content) :
      d'.read path = .ok content := by
    refine Layout.read_of_unchanged hk (fun pl => ?_) ha hplace hr
    exact (hc pl).imp_right (Or.imp And.left fun ⟨a, hpl, hnot, _⟩ => ⟨a, hpl, hnot⟩)
  have hbelow : w.layout.Allows (w.Permits n) d' := by
    refine Layout.Allows.change h.below fun pl => ?_
    exact (hc pl).imp_right (Or.imp And.left fun ⟨a, hpl, _, hp⟩ => ⟨a, hpl, hp⟩)
  refine ⟨h.bounded, fun pl hb => ?_, hbelow, fun id hid => ?_, fun hn => ?_⟩
  · rcases hc pl with he | ⟨-, hnone, hdir⟩ | ⟨a, rfl, -⟩
    · rw [he]
      exact h.outside pl hb
    · rcases h.outside pl hb with he | ⟨-, hdir'⟩
      · exact .inr ⟨he ▸ hnone, hdir⟩
      · rw [hdir'] at hnone
        cases hnone
    · exact absurd (w.layout.below_placeOf a) hb
  · obtain ⟨entryId, hparts⟩ := h.parts id hid
    exact ⟨entryId, fun k hk => hfixed (a := .part k id) hid (w.layout.place_part k id)
      (hparts k hk)⟩
  · exact hfixed (a := .checkpoint) trivial w.layout.place_checkpoint (h.checkpoint hn)

/-! ### What keeps it -/

theorem Stands.grown (hw : w.Sound) (h : w.Stands n d) (hg : Grown w.layout.OnWay d d') :
    w.Stands n d' := by
  refine h.change hg.keepsDirectories fun pl => ?_
  rcases Layout.grown_cases hg pl with he | ⟨hroot, hnone, hdir⟩ | ⟨a, ha, rfl, hdir⟩
  · exact .inl he
  · exact .inr (.inl ⟨hw.empty.way pl hroot, hnone, hdir⟩)
  · refine .inr (.inr ⟨a, rfl, ?_, fun node hnode => ?_⟩)
    · rcases ha with rfl | ⟨k, rfl⟩ <;> exact id
    · rw [hdir] at hnode
      rcases ha with rfl | ⟨k, rfl⟩ <;> exact (Option.some.inj hnode).symm

theorem Stands.grown_root (hw : w.Sound) (h : w.Stands n d)
    (hg : Grown w.layout.root.OnWay d d') : w.Stands n d' := by
  refine h.change hg.keepsDirectories fun pl => ?_
  rcases hg pl with he | ⟨hway, hn, hd⟩
  · exact .inl he
  · exact .inr (.inl ⟨hw.empty.way pl hway, hn, hd⟩)

/-- Files that are not complete do not matter. -/
theorem Stands.partly (h : w.Stands n d) {a : Slot}
    (ha : a = .unfinishedCheckpoint ∨ ∃ k id, id ≤ n ∧ a = .unfinished k id)
    (hp : Partly (w.layout.placeOf a) d d') : w.Stands n d' := by
  refine h.change hp.keepsDirectories fun pl => ?_
  by_cases hpl : pl = w.layout.placeOf a
  · subst hpl
    rcases hp.file with he | ⟨-, content, hc⟩
    · exact .inl he
    · refine .inr (.inr ⟨a, rfl, ?_, fun node hnode => ?_⟩)
      · rcases ha with rfl | ⟨k, _, -, rfl⟩ <;> exact id
      · rw [hc] at hnode
        obtain rfl := Option.some.inj hnode
        rcases ha with rfl | ⟨k, id, hle, rfl⟩
        · exact ⟨content, rfl⟩
        · exact ⟨hle, content, rfl⟩
  · exact .inl (hp.other pl hpl)

/-- A part of the batch that comes next may be complete. -/
theorem Stands.written (h : w.Stands n d) (hn : n < w.files.length) {k : TableKind}
    {entryId : String} (hrows : (w.outcomeAt n entryId).rows k ≠ [])
    (hwritten : Written ((w.layout.table k).partPath n) (w.partOf k n entryId) d d') :
    w.Stands n d' := by
  refine h.change hwritten.keepsDirectories fun pl => ?_
  by_cases hpl : pl = w.layout.placeOf (.part k n)
  · subst hpl
    refine .inr (.inr ⟨_, rfl, Nat.lt_irrefl n, fun node hnode => ?_⟩)
    rw [← w.layout.place_part, hwritten.file] at hnode
    exact ⟨Nat.le_refl n, hn, entryId, hrows, (Option.some.inj hnode).symm⟩
  · by_cases htemp : pl = w.layout.placeOf (.unfinished k n)
    · subst htemp
      refine .inr (.inr ⟨_, rfl, id, fun node hnode => ?_⟩)
      rw [← w.layout.place_unfinished, hwritten.temporary] at hnode
      cases hnode
    · refine .inl (hwritten.other pl ?_ ?_)
      · rw [w.layout.place_part]
        exact hpl
      · rw [w.layout.place_unfinished]
        exact htemp

/-- What is in the directory of a table is a part, complete or not. -/
theorem Stands.of_child (h : w.Stands n d) {k : TableKind} {name : String} {node : Node}
    (hg : d.get? ((w.layout.table k).directory.place ++ [name]) = some node) :
    (∃ id, name = PartTable.partName id ∧ w.Permits n (.part k id) node) ∨
      ∃ id, name = PartTable.temporaryName id :=
  (Layout.Allows.of_child h.below hg).imp_right fun ⟨id, hname, _⟩ => ⟨id, hname⟩

theorem Sound.small_of_lt (hw : w.Sound) {id : Nat} (h : id < w.files.length) :
    id < 0x10000000000000000 := Nat.lt_of_lt_of_le h hw.small

/-- Only what is not committed is discarded. -/
theorem Stands.pruned (hw : w.Sound) (h : w.Stands n d)
    (hp : PartTable.Pruned (w.layout.StaleAt (w.checkpointAt n).batches d) d d') :
    w.Stands n d' := by
  refine h.change hp.keepsDirectories fun pl => ?_
  rcases Layout.Allows.pruned_cases h.below hp pl with he | ⟨hnone, hgone⟩
  · exact .inl he
  · have hnothing : ∀ a node, d'.get? pl = some node → w.Permits n a node := by
      intro a node hnode
      rw [hnone] at hnode
      cases hnode
    rcases hgone with ⟨k, id, node, rfl, ⟨-, hid, -⟩, hstale⟩ | ⟨k, id, rfl⟩
    · refine .inr (.inr ⟨.part k id, rfl, fun hlt => ?_, hnothing _⟩)
      rw [PartTable.isStale_partName (hw.small_of_lt hid),
        (contains_checkpointAt h.bounded).2 hlt] at hstale
      cases hstale
    · exact .inr (.inr ⟨.unfinished k id, rfl, fun hf => hf, hnothing _⟩)

/-- When all parts of a batch are there, the checkpoint commits it. -/
theorem Stands.commit (h : w.Stands n d) {f : String × List Record}
    {rest : List (String × List Record)} (hdrop : w.files.drop n = f :: rest) (entryId : String)
    (hparts : ∀ k, (w.outcomeAt n entryId).rows k ≠ [] →
      d.read ((w.layout.table k).partPath n) = .ok (w.partOf k n entryId))
    (hwritten : Written w.layout.checkpoint (w.checkpointAt (n + 1)).render.toUTF8 d d') :
    w.Stands (n + 1) d' := by
  refine ⟨lt_of_drop hdrop, fun pl hb => ?_, fun pl node hb hg => ?_, fun id hid => ?_,
    fun _ => hwritten.read⟩
  · rw [Layout.get?_of_saved hwritten]
    · exact h.outside pl hb
    · rintro rfl
      exact hb (w.layout.below_placeOf _)
    · rintro rfl
      exact hb (w.layout.below_placeOf _)
  · by_cases h1 : pl = w.layout.placeOf .checkpoint
    · subst h1
      rw [← w.layout.place_checkpoint, hwritten.file] at hg
      exact ⟨_, rfl, Nat.succ_pos n, (Option.some.inj hg).symm⟩
    · by_cases h2 : pl = w.layout.placeOf .unfinishedCheckpoint
      · subst h2
        rw [← w.layout.place_unfinishedCheckpoint, hwritten.temporary] at hg
        cases hg
      · rw [Layout.get?_of_saved hwritten h1 h2] at hg
        obtain ⟨a, rfl, hp⟩ := h.below pl node hb hg
        refine ⟨a, rfl, ?_⟩
        cases a with
        | part k id | unfinished k id => exact ⟨Nat.le_succ_of_le hp.1, hp.2⟩
        | checkpoint => exact absurd rfl h1
        | _ => exact hp
  · rcases Nat.lt_succ_iff_lt_or_eq.1 hid with hid | rfl
    · obtain ⟨entryId, hr⟩ := h.parts id hid
      exact ⟨entryId, fun k hk => Layout.read_part_of_saved hwritten (hr k hk)⟩
    · exact ⟨entryId, fun k hk => Layout.read_part_of_saved hwritten (hparts k hk)⟩

end Workload
end Quarantine
