import Quarantine.Proofs.Storage.Directories

/-!
# What is in the directory of a table

A table is told by what is in its directory, name by name.  Where nothing is refused, writing a
part and discarding parts always succeed, if there are no directories in it; and what they do is
told by the names alone.

    nodeAt? after writePart id rows       = the part at its name, nothing at its temporary name
    nodeAt? after discardUncommitted C    = nothing at names of no use

The way to the table must not lead through the table itself: a directory that is made on the way
would be in it.
-/

namespace Quarantine

open Quarantine.Disk Quarantine.Job Quarantine.Json

/-- That no place on the way to a directory is in it. -/
def Path.IsApart (p : Path) : Prop := ∀ name, ¬ p.OnWay (p.place ++ [name])

/-- Names that do not go up lead one step down each. -/
theorem Path.resolve_of_not_mem {start : Place} {ns : List String} (h : ".." ∉ ns) :
    resolve start ns = start ++ ns := by
  induction ns generalizing start with
  | nil => exact (List.append_nil start).symm
  | cons name rest ih =>
    have hname : name ≠ ".." := fun he => h (he ▸ List.mem_cons_self)
    rw [resolve, if_neg hname, ih fun hm => h (List.mem_cons_of_mem _ hm), List.append_assoc]
    rfl

/-- The way of a path that does not go up is apart from what it leads to. -/
theorem Path.isApart_of_not_mem {p : Path} (h : ".." ∉ p.names) : p.IsApart := by
  rintro name ⟨ns, hns, he⟩
  rw [place, resolve_of_not_mem h, resolve_of_not_mem fun hm => h (hns.subset hm)] at he
  have hlength := hns.length_le
  rw [List.nil_append, List.nil_append] at he
  rw [← he, List.length_append, List.length_singleton] at hlength
  omega

namespace PartTable

/-- What a name in the directory of a table stands for. -/
def nodeAt? (t : PartTable) (d : Disk) (name : String) : Option Node :=
  d.get? (t.directory.place ++ [name])

/-- That a path leads to the directory of a table, or that the directory can be made. -/
structure Reachable (t : PartTable) (d : Disk) : Prop where
  named : t.directory.text.isEmpty = false
  apart : t.directory.IsApart
  clear : d.Clear t.directory.names

variable {s : Surroundings} {t : PartTable} {d d' : Disk}

theorem Reachable.of_get?_eq (h : t.Reachable d)
    (hsame : ∀ pl, t.directory.OnWay pl → d'.get? pl = d.get? pl) : t.Reachable d' :=
  ⟨h.named, h.apart, h.clear.of_get?_eq fun ns hns => hsame _ ⟨ns, hns, rfl⟩⟩

theorem Removable.of_nodeAt?_eq {name : String} (h : t.Removable d name)
    (hsame : t.nodeAt? d' name = t.nodeAt? d name) : t.Removable d' name := by
  obtain ⟨content, hfile⟩ := h.file
  exact ⟨h.isName, h.short, content, hsame.trans hfile⟩

/-! ## Writing -/

/-- Directories that are made on the way to a table are not in it. -/
theorem nodeAt?_of_grown (h : t.directory.IsApart) (hg : Grown t.directory.OnWay d d')
    (name : String) : t.nodeAt? d' name = t.nodeAt? d name :=
  (hg _).resolve_right fun hway => h name hway.1

/-- What a written part changes in the directory of the table. -/
theorem nodeAt?_of_written {id : Nat} {content : ByteArray}
    (h : Written (t.partPath id) content d d') (name : String) : t.nodeAt? d' name =
      if name = partName id then some (.file content)
      else if name = temporaryName id then none else t.nodeAt? d name := by
  have hplace {other : String} (hne : name ≠ other) :
      t.directory.place ++ [name] ≠ t.directory.place ++ [other] :=
    fun he => hne (List.singleton_inj.1 (List.append_cancel_left he))
  unfold nodeAt?
  split
  · next hname => rw [hname, ← place_partPath, h.file]
  · next hname =>
    split
    · next hname => rw [hname, ← place_temporary, h.temporary]
    · next hname' =>
      refine h.other _ ?_ ?_
      · rw [place_partPath]
        exact hplace hname
      · rw [place_temporary]
        exact hplace hname'

/-- A part is written: at its name are the rows, at its temporary name is nothing, and the other
entries stay. -/
theorem exists_outcome_writePart (h : t.Reachable d) {id : Nat} (hid : id < 0x10000000000000000)
    {rows : List Value} (hrows : rows.isEmpty = false)
    (hfiles : ∀ name, t.nodeAt? d name ≠ some .directory) :
    ∃ d', (t.writePart id rows).outcome s d = (.ok (some (t.partPath id)), d') ∧
      t.Reachable d' ∧ d'.HasDirectory t.directory ∧
      ∀ name, t.nodeAt? d' name =
        if name = partName id then some (.file (Rows.render rows).toUTF8)
        else if name = temporaryName id then none else t.nodeAt? d name := by
  obtain ⟨d₁, hmade, hgrown, hdir⟩ := exists_outcome_ensureDirectory (s := s) h.named h.clear
  have hnode := nodeAt?_of_grown h.apart hgrown
  have hpart : t.nodeAt? d₁ (partName id) ≠ some .directory := hnode _ ▸ hfiles _
  have htemporary : t.nodeAt? d₁ (temporaryName id) ≠ some .directory := hnode _ ▸ hfiles _
  rw [nodeAt?, ← place_partPath] at hpart
  rw [nodeAt?, ← place_temporary] at htemporary
  -- the file is written in the directory
  have hl : d₁.locate (t.partPath id) = .ok (t.partPath id).place :=
    hdir.locate_join (isName_partName id)
      (Nat.le_trans (utf8ByteSize_partName (Nat.le_of_lt hid)) (by decide))
  have hlt : d₁.locate (t.partPath id).temporary = .ok (t.partPath id).temporary.place := by
    rw [temporary_partPath]
    exact hdir.locate_join (isName_temporaryName id)
      (Nat.le_trans (utf8ByteSize_temporaryName (Nat.le_of_lt hid)) (by decide))
  obtain ⟨⟨⟩, hok⟩ : Succeeds s (writeWhole (t.partPath id) (Rows.render rows)) d₁ :=
    succeeds_writeWhole hl hlt (place_temporary_ne t id) hpart htemporary
  have houtcome : (writeWhole (t.partPath id) (Rows.render rows)).outcome s d₁ =
      (.ok (), ((writeWhole (t.partPath id) (Rows.render rows)).outcome s d₁).2) := Prod.ext hok rfl
  generalize ((writeWhole (t.partPath id) (Rows.render rows)).outcome s d₁).2 = d' at houtcome
  have hwritten := (ensures_writeWhole (S := fun _ => True) (Q := fun _ d' =>
    Written (t.partPath id) (Rows.render rows).toUTF8 d₁ d') (place_temporary_ne t id)
    (fun _ _ => trivial) fun _ h => h).of_outcome houtcome
  have hsame {pl : Place} (hway : t.directory.OnWay pl) : d'.get? pl = d₁.get? pl :=
    hwritten.other pl (fun he => h.apart (partName id) (place_partPath t id ▸ he ▸ hway))
      fun he => h.apart (temporaryName id) (place_temporary t id ▸ he ▸ hway)
  refine ⟨d', ?_, ?_, hdir.mono hwritten.keepsDirectories, fun name => ?_⟩
  · unfold writePart
    rw [hrows, if_neg Bool.false_ne_true]
    exact (outcome_bind_of_outcome hmade).trans (outcome_bind_of_outcome houtcome)
  · have hreachable : t.Reachable d₁ := ⟨h.named, h.apart, h.clear.grown hgrown⟩
    exact hreachable.of_get?_eq fun pl hway => hsame hway
  · rw [nodeAt?_of_written hwritten, hnode]

/-! ## Discarding -/

/-- That a place is that of a name of no use. -/
def IsStaleAt (t : PartTable) (committed : Ascending Nat) (pl : Place) : Prop :=
  ∃ name, isStale committed name = true ∧ pl = t.directory.place ++ [name]

/-- Where nothing is of no use, nothing is removed. -/
theorem outcome_discardUncommitted_of_fresh {names : List String} (h : t.Names d names)
    {committed : Ascending Nat} (hfresh : ∀ name ∈ names, isStale committed name = false) :
    (t.discardUncommitted committed).outcome s d = (.ok 0, d) := by
  have hnone : names.filter (isStale committed) = [] :=
    List.filter_eq_nil_iff.2 fun name hname => Bool.eq_false_iff.1 (hfresh name hname)
  refine (outcome_bind_of_outcome h.outcome).trans ?_
  rw [hnone]
  rfl

/-- What is of no use is discarded if it is files with proper names, and the other entries
stay. -/
theorem exists_outcome_discardUncommitted (h : t.Reachable d) (hdir : d.HasDirectory t.directory)
    {committed : Ascending Nat} (hfiles : ∀ name, isStale committed name = true →
      t.nodeAt? d name ≠ none → t.Removable d name) :
    ∃ n d', (t.discardUncommitted committed).outcome s d = (.ok n, d') ∧ t.Reachable d' ∧
      d'.HasDirectory t.directory ∧
      (∀ name, t.nodeAt? d' name = if isStale committed name then none else t.nodeAt? d name) ∧
      Pruned (t.IsStaleAt committed) d d' := by
  have hremovable (name : String) (hname : t.Discarded committed d name) : t.Removable d name := by
    obtain ⟨node, hnode⟩ := mem_children_iff.1 hname.2
    refine hfiles name hname.1 ?_
    rw [nodeAt?, hnode]
    nofun
  have hplace (name : String) (hname : t.Discarded committed d name) :
      (t.directory.join name).place = t.directory.place ++ [name] :=
    Path.place_join _ (hremovable name hname).isName
  obtain ⟨n, hok⟩ := succeeds_discardUncommitted (s := s) hdir hremovable
  have houtcome : (t.discardUncommitted committed).outcome s d =
      (.ok n, ((t.discardUncommitted committed).outcome s d).2) := Prod.ext hok rfl
  generalize ((t.discardUncommitted committed).outcome s d).2 = d' at houtcome
  obtain ⟨hpruned, hgone⟩ := (ensures_discardUncommitted (S := fun _ => True) (Q := fun _ d' =>
    Pruned (t.IsStaleAt committed) d d' ∧
      ∀ name, t.Discarded committed d name → t.nodeAt? d' name = none) (t.IsStaleAt committed)
    (fun name hname => ⟨name, hname.1, hplace name hname⟩) (fun _ _ => trivial)
    fun _ d' hpruned hgone => ⟨hpruned, fun name hname => by
      rw [nodeAt?, ← hplace name hname]
      exact hgone hdir name hname⟩).of_outcome houtcome
  refine ⟨n, d', houtcome, h.of_get?_eq fun pl hway => ?_, hdir.mono hpruned.keepsDirectories,
    fun name => ?_, hpruned⟩
  · refine (hpruned pl).resolve_right fun hin => ?_
    obtain ⟨⟨name, -, rfl⟩, -⟩ := hin
    exact h.apart name hway
  · split
    · next hstale =>
      cases hnode : t.nodeAt? d name with
      | none => exact hpruned.none hnode
      | some node => exact hgone name ⟨hstale, mem_children_iff.2 ⟨node, hnode⟩⟩
    · next hfresh =>
      refine (hpruned _).resolve_right fun hin => hfresh ?_
      obtain ⟨⟨other, hstale, he⟩, -⟩ := hin
      rwa [List.singleton_inj.1 (List.append_cancel_left he)]

end PartTable
end Quarantine
