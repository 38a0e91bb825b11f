import Quarantine.Proofs.Storage.Edits
import Quarantine.Proofs.Storage.Entries

/-!
# Names that are read as parts

The part of a batch is written under one name, but other names are read as it: those with a plus
sign, and with fewer zeros in front of the number or more.  A table without such names is in order.
Writing and discarding keep it in order, wherever they are refused or cut off; in it each batch that
is reported has its part, and that is its only file.  In another table nothing can be read as soon as
a committed batch has a file of such a name and not its part.

    partId? name = some id    ↔  name is "part-", "+" or nothing, zeros, id, ".ndjson"
    InOrder                   :  stays after edits under any fates
    InOrder t d               →  partIds t = the batches whose parts are found
-/

namespace Quarantine.PartTable

open Quarantine.Decimal Quarantine.Disk Quarantine.Job Quarantine.Json

/-! ## Names -/

/-- A name with the number of a batch after a sign and zeros. -/
def spelledName (sign : String) (zeros id : Nat) : String :=
  partBeginning ++ sign ++ String.ofList (List.replicate zeros '0') ++ id.repr ++ partEnding

theorem toList_spelledName (sign : String) (zeros id : Nat) : (spelledName sign zeros id).toList =
    partBeginning.toList ++ (sign.toList ++ List.replicate zeros '0' ++ Nat.toDigits 10 id) ++
      partEnding.toList := by
  simp [spelledName, Nat.toList_repr]

/-- A name is read as a part by what is between its beginning and its ending. -/
theorem partId?_eq_some_iff_unsigned? {name : String} {id : Nat} : partId? name = some id ↔
    ∃ cs, name.toList = partBeginning.toList ++ cs ++ partEnding.toList ∧
      unsigned? cs = some id := by
  constructor
  · intro h
    obtain ⟨rest, hrest, h⟩ := Option.bind_eq_some_iff.1 h
    obtain ⟨cs, hcs, h⟩ := Option.bind_eq_some_iff.1 h
    refine ⟨cs, ?_, h⟩
    rw [eq_append_of_isPrefixOf? hrest, eq_append_of_isSuffixOf? hcs, List.append_assoc]
  · rintro ⟨cs, hname, h⟩
    rw [partId?, hname, List.append_assoc, isPrefixOf?_append]
    show (partEnding.toList.isSuffixOf? (cs ++ partEnding.toList)).bind _ = _
    rw [isSuffixOf?_append]
    exact h

/-- The names that are read as the part of a batch. -/
theorem partId?_eq_some_iff {name : String} {id : Nat} : partId? name = some id ↔
    id < 0x10000000000000000 ∧
      ∃ sign zeros, (sign = "" ∨ sign = "+") ∧ name = spelledName sign zeros id := by
  rw [partId?_eq_some_iff_unsigned?]
  simp only [unsigned?_eq_some_iff]
  constructor
  · rintro ⟨_, hname, hid, sign, zeros, hsign, rfl⟩
    refine ⟨hid, String.ofList sign, zeros, ?_, String.toList_inj.1 ?_⟩
    · rcases hsign with rfl | rfl
      · exact .inl rfl
      · exact .inr rfl
    · rw [toList_spelledName, String.toList_ofList]
      exact hname
  · rintro ⟨hid, sign, zeros, hsign, rfl⟩
    refine ⟨_, toList_spelledName sign zeros id, hid, sign.toList, zeros, ?_, rfl⟩
    rcases hsign with rfl | rfl
    · exact .inl rfl
    · exact .inr rfl

/-- Of these names, the one with ten digits and no more zeros than that is the name of the part. -/
theorem spelledName_eq_partName_iff {sign : String} (hsign : sign = "" ∨ sign = "+")
    {zeros id n : Nat} : spelledName sign zeros id = partName n ↔
      sign = "" ∧ zeros = partDigits - (Nat.toDigits 10 id).length ∧ id = n := by
  rw [← String.toList_inj, toList_spelledName, toList_partName]
  constructor
  · intro h
    have hdigits := List.append_cancel_left (List.append_cancel_right h)
    rcases hsign with rfl | rfl
    · have hvalue : id = n := by
        have hsame := congrArg (Nat.ofDigitChars 10 · 0) hdigits
        rw [ofDigitChars_paddedChars, String.toList_empty, List.nil_append,
          Nat.ofDigitChars_append, Nat.ofDigitChars_replicate_zero, Nat.mul_zero,
          Nat.ofDigitChars_ten_toDigits] at hsame
        exact hsame
      subst hvalue
      have hzeros := congrArg List.length (List.append_cancel_right hdigits)
      rw [String.toList_empty, List.nil_append, List.length_replicate,
        List.length_replicate] at hzeros
      exact ⟨rfl, hzeros, rfl⟩
    · have hplus : '+' ∈ paddedChars partDigits n := hdigits ▸ List.mem_cons_self
      exact absurd (isDigit_of_mem_paddedChars hplus) (by decide)
  · rintro ⟨rfl, rfl, rfl⟩
    rfl

-- The name of the part, and others that are read as it.
example : [1, 10, 3].map (spelledName "" · 7) = ["part-07.ndjson", "part-00000000007.ndjson",
    "part-0007.ndjson"] ∧ partName 7 = "part-0000000007.ndjson" ∧
    ["part-7.ndjson", "part-+7.ndjson", "part-00000000007.ndjson"].map partId? =
      [some 7, some 7, some 7] := by decide

/-! ## Tables in order -/

section

variable {s : Surroundings} {t : PartTable} {d d' : Disk}

/-- That no name in the directory of a table is read as a part and is not that of the part. -/
def InOrder (t : PartTable) (d : Disk) : Prop :=
  ∀ name, t.nodeAt? d name ≠ none → ∀ id, partId? name = some id → name = partName id

/-- What is new in the table does no harm where it has the name of a part, or is read as none. -/
theorem InOrder.of_nodeAt? (h : t.InOrder d) (hnew : ∀ name, t.nodeAt? d' name ≠ none →
    t.nodeAt? d name ≠ none ∨ (∃ id, name = partName id) ∨ partId? name = none) :
    t.InOrder d' := by
  intro name hname id hid
  rcases hnew name hname with hbefore | ⟨n, rfl⟩ | hno
  · exact h name hbefore id hid
  · rw [eq_of_partId?_partName hid]
  · rw [hno] at hid
    cases hid

theorem InOrder.grown (h : t.InOrder d) (hapart : t.directory.IsApart)
    (hg : Grown t.directory.OnWay d d') : t.InOrder d' :=
  h.of_nodeAt? fun name hname => .inl (nodeAt?_of_grown hapart hg name ▸ hname)

theorem InOrder.partly (h : t.InOrder d) {id : Nat}
    (hp : Partly (t.partPath id).temporary.place d d') : t.InOrder d' := by
  refine h.of_nodeAt? fun name hname => ?_
  by_cases htemporary : name = temporaryName id
  · exact .inr (.inr (htemporary ▸ partId?_temporaryName id))
  · have hsame : t.nodeAt? d' name = t.nodeAt? d name := by
      refine hp.other _ fun he => htemporary ?_
      rw [place_temporary] at he
      exact List.singleton_inj.1 (List.append_cancel_left he)
    exact .inl (hsame ▸ hname)

theorem InOrder.written (h : t.InOrder d) {id : Nat} {content : ByteArray}
    (hw : Written (t.partPath id) content d d') : t.InOrder d' := by
  refine h.of_nodeAt? fun name hname => ?_
  rw [nodeAt?_of_written hw] at hname
  split at hname
  · next hpart => exact .inr (.inl ⟨id, hpart⟩)
  · split at hname
    · exact absurd rfl hname
    · exact .inl hname

theorem InOrder.pruned (h : t.InOrder d) {at_ : Place → Prop} (hp : Pruned at_ d d') :
    t.InOrder d' :=
  h.of_nodeAt? fun _ hname => .inl fun hnone => hname (hp.none hnone)

end

/-! ## Edits -/

section

variable {s : Surroundings} {t : PartTable} {d : Disk} {p : Path} {name : String}
  (hn : Path.IsName name) (ht : t.directory = p.join name) (hapart : t.directory.IsApart)

include hn ht hapart

/-- An edit keeps a table in order, wherever it ends. -/
theorem InOrder.ensures_edit (h : t.InOrder d) (e : Edit) :
    Job.Ensures s t.InOrder (fun _ => t.InOrder) (e.job t) d := by
  cases e with
  | write id rows =>
    exact ensures_discard (ensures_writePart (Q := fun _ => t.InOrder) hn ht (fun _ => h)
      (fun _ d₁ d' hg hp => (h.grown hapart hg).partly hp)
      fun _ d₁ d' hg hw => (h.grown hapart hg).written hw)
  | discard committed =>
    exact ensures_discard (ensures_discardUncommitted (Q := fun _ => t.InOrder) (fun _ => True)
      (fun _ _ => trivial) (fun d' hp => h.pruned hp) fun _ d' hp _ => h.pruned hp)

/-- Edits one after the other, each under its own fates, keep a table in order. -/
theorem InOrder.edited (h : t.InOrder d) (edits : List (Edit × List Fate)) :
    t.InOrder (edits.foldl (fun d e => ((e.1.job t).run.runUnder s e.2 d).disk) d) := by
  induction edits generalizing d with
  | nil => exact h
  | cons e rest ih =>
    exact ih ((h.ensures_edit hn ht hapart e.1).disk e.2)

end

/-! ## Reading -/

section

variable {s : Surroundings} {t : PartTable} {d : Disk} {id : Nat}

/-- That a batch is reported: some name in the directory of the table is read as its part. -/
def Reported (t : PartTable) (d : Disk) (id : Nat) : Prop :=
  ∃ name, t.nodeAt? d name ≠ none ∧ partId? name = some id

theorem exists_partIds_of_hasDirectory (hdir : d.HasDirectory t.directory) :
    ∃ ids, t.partIds.outcome s d = (.ok ids, d) ∧
      ∀ id, ids.contains id = true ↔ t.Reported d id := by
  have hnames : t.Names d ((d.children t.directory.place).map Prod.fst) := .inl ⟨hdir, rfl⟩
  refine ⟨_, outcome_bind_of_outcome hnames.outcome, fun id => ?_⟩
  rw [Ascending.contains_ofList, List.mem_filterMap]
  simp only [mem_children_iff, ← Option.ne_none_iff_exists']
  rfl

/-- In a table in order the files of batches are told apart by the batches. -/
theorem InOrder.eq_of_partId? (h : t.InOrder d) {name other : String}
    (hname : t.nodeAt? d name ≠ none) (hother : t.nodeAt? d other ≠ none)
    (hid : partId? name = some id) (hid' : partId? other = some id) : name = other :=
  (h name hname id hid).trans (h other hother id hid').symm

/-- In a table in order a batch is reported where there is something at the place of its part. -/
theorem InOrder.reported_iff (h : t.InOrder d) :
    t.Reported d id ↔ id < 0x10000000000000000 ∧ t.nodeAt? d (partName id) ≠ none := by
  constructor
  · rintro ⟨name, hname, hid⟩
    exact ⟨(partId?_eq_some_iff.1 hid).1, h name hname id hid ▸ hname⟩
  · rintro ⟨h64, hthere⟩
    exact ⟨partName id, hthere, partId?_partName h64⟩

theorem read_partPath_ne_notFound (hdir : d.HasDirectory t.directory)
    (h64 : id < 0x10000000000000000) :
    d.read (t.partPath id) ≠ .error .notFound ↔ t.nodeAt? d (partName id) ≠ none := by
  have hl : d.locate (t.partPath id) = .ok (t.partPath id).place :=
    hdir.locate_join (isName_partName id)
      (Nat.le_trans (utf8ByteSize_partName (Nat.le_of_lt h64)) (by decide))
  rw [nodeAt?, ← place_partPath]
  cases hg : d.get? (t.partPath id).place with
  | none =>
    have hread : d.read (t.partPath id) = .error .notFound := by
      rw [Disk.read, find, hl]
      dsimp only [bind, Except.bind]
      rw [hg]
      rfl
    exact iff_of_false (fun h => h hread) fun h => h rfl
  | some node =>
    refine iff_of_true (fun h => ?_) (Option.some_ne_none node)
    rw [Disk.read, find_of_locate hl hg] at h
    cases node with
    | file content => cases h
    | directory => cases h

/-- In a table in order the batches that are reported are those whose parts are found. -/
theorem InOrder.reported_iff_read (h : t.InOrder d) (hdir : d.HasDirectory t.directory) :
    t.Reported d id ↔
      id < 0x10000000000000000 ∧ d.read (t.partPath id) ≠ .error .notFound := by
  rw [h.reported_iff]
  exact and_congr_right fun h64 => (read_partPath_ne_notFound hdir h64).symm

/-- After any edits of a table in order, wherever each of them ends, the batches that are reported
are those whose parts are found. -/
theorem InOrder.exists_partIds_edited {p : Path} {name : String} (hn : Path.IsName name)
    (ht : t.directory = p.join name) (hapart : t.directory.IsApart) (h : t.InOrder d)
    (edits : List (Edit × List Fate)) :
    let d' := edits.foldl (fun d e => ((e.1.job t).run.runUnder s e.2 d).disk) d
    d'.HasDirectory t.directory → ∃ ids, t.partIds.outcome s d' = (.ok ids, d') ∧
      ∀ id, ids.contains id = true ↔
        id < 0x10000000000000000 ∧ d'.read (t.partPath id) ≠ .error .notFound := by
  intro d' hdir
  have horder : t.InOrder d' := h.edited hn ht hapart edits
  obtain ⟨ids, hids, hmem⟩ := exists_partIds_of_hasDirectory (s := s) hdir
  exact ⟨ids, hids, fun id => (hmem id).trans (horder.reported_iff_read hdir)⟩

/-- Where a committed batch is reported and its part is not there, nothing is read. -/
theorem not_succeeds_readCommitted {α : Type} {parse? : String → Option α}
    {committed : Ascending Nat} (hdir : d.HasDirectory t.directory) (hid : t.Reported d id)
    (hcommitted : committed.contains id = true) (hmissing : t.nodeAt? d (partName id) = none) :
    ¬ Succeeds s (t.readCommitted parse? committed) d := by
  intro hread
  obtain ⟨rows, names, ids, part, hnames, -, hmem, hpart, -⟩ := succeeds_readCommitted_iff.1 hread
  obtain rfl := hnames.unique (.inl ⟨hdir, rfl⟩)
  obtain ⟨name, hname, hid⟩ := hid
  have hin : id ∈ ids := (hmem id).2
    ⟨hcommitted, name, mem_children_iff.2 (Option.ne_none_iff_exists'.1 hname), hid⟩
  have hrows := hpart id hin
  rw [rowsIn] at hrows
  split at hrows
  · next content hc =>
    have hfile := (read_ok_iff.1 hc).2
    rw [place_partPath, ← nodeAt?, hmissing] at hfile
    cases hfile
  · cases hrows

/-- A file whose name has no zeros in front of the number is reported, and not read. -/
theorem not_succeeds_readCommitted_unpadded (s : Surroundings) :
    let t : PartTable := ⟨⟨"t"⟩⟩
    let d := (Disk.empty.put ["t"] .directory).put ["t", "part-1.ndjson"] (.file .empty)
    t.Reported d 1 ∧ ¬ Succeeds s (t.readCommitted Json.parse? (.ofList [1])) d :=
  have hreported : Reported ⟨⟨"t"⟩⟩
      ((Disk.empty.put ["t"] .directory).put ["t", "part-1.ndjson"] (.file .empty)) 1 :=
    ⟨"part-1.ndjson", nofun, rfl⟩
  ⟨hreported, not_succeeds_readCommitted ⟨rfl, rfl⟩ hreported rfl rfl⟩

end

end Quarantine.PartTable
