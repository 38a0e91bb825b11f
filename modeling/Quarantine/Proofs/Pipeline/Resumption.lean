import Quarantine.Proofs.Pipeline.Draining
import Quarantine.Proofs.Rule.RuleSet

/-!
# The files of two runs

A run may find the first files of a directory only, and a run after it all of them.  What each of
them commits is told by the first record of the files that are left for it: its columns are those
that the rules of the table are compiled for.

    Advances l table fs cs new d   the files after those of cs are committed by these rules, or none
    Commits l fs rows m d          the first m files are committed with these rows
    SameRows l fs d d'             two disks have every file committed with the same rows

Rows can be compared without their files' order: the batch with number `id` is that of file `id`.
-/

namespace Quarantine

open Quarantine.Disk Quarantine.Job Quarantine.Json

variable {l : Layout} {path : Path} {fs : List InputFile} {cs : List Commit} {d d' : Disk} {n : Nat}

namespace Layout

/-! ## Files that come later -/

/-- A run that did not find the last files leaves the rest of the disk as one that did. -/
theorem Around.supplied (ha : l.Around (InputFile.withheld path fs d) d')
    (hthere : ∀ f ∈ fs, d.get? (f.placeIn path) = some (.file f.content))
    (hnodup : (fs.map InputFile.name).Nodup) : l.Around d (InputFile.supplied path fs d') := by
  have hkept : KeepsDirectories d d' :=
    (InputFile.keepsDirectories_withheld fun f hf => by rw [hthere f hf]; nofun).trans
      ha.keepsDirectories
  constructor
  · intro pl hpl
    rw [InputFile.get?_supplied_of_ne]
    · exact hkept pl hpl
    · rintro f hf rfl
      rw [hthere f hf] at hpl
      cases hpl
  · intro pl hb
    by_cases hpl : ∃ f ∈ fs, pl = f.placeIn path
    · obtain ⟨f, hf, rfl⟩ := hpl
      rw [InputFile.get?_supplied_of_mem hnodup hf]
      exact .inl (hthere f hf).symm
    · have hne : ∀ f ∈ fs, pl ≠ f.placeIn path := fun f hf he => hpl ⟨f, hf, he⟩
      rw [InputFile.get?_supplied_of_ne hne, ← InputFile.get?_withheld_of_ne (d := d) hne]
      exact ha.outside pl hb

/-- Files outside of the root change nothing of what is committed. -/
theorem Covers.supplied {later : List InputFile} (h : l.Covers (fs.take n) cs d)
    (hk : KeepsDirectories d (InputFile.supplied path later d))
    (hout : ∀ name, ¬ l.root.Below (path.place ++ [name])) :
    l.Covers fs cs (InputFile.supplied path later d) := by
  have hsame {pl : Place} (hb : l.root.Below pl) :
      (InputFile.supplied path later d).get? pl = d.get? pl := by
    refine InputFile.get?_supplied_of_ne fun f _ he => ?_
    rw [he] at hb
    exact hout f.name hb
  refine ⟨h.keeps.change hk fun pl => ?_, fun id c hc k => ?_, ?_⟩
  · by_cases hb : l.root.Below pl
    · exact .inl (hsame hb)
    · exact .inr (.inl hb)
  · rw [partFile?, file?_congr (hsame (l.below_placeOf _))]
    exact h.exact id c hc k
  · exact h.files.trans ((List.take_prefix n fs).map _)

/-! ## Rows -/

/-- The batch of a commit is that of the file with its number. -/
theorem Covers.batch_eq (h : l.Covers fs cs d) {id : Nat} {c : Commit} (hc : cs[id]? = some c)
    {f : InputFile} (hf : fs[id]? = some f) : c.batch = f.batch := by
  have hlt : id < cs.length := (List.getElem?_eq_some_iff.1 hc).1
  have hbatch : (cs.map Commit.batch)[id]? = some f.batch := by
    rw [h.map_batch, List.getElem?_map, List.getElem?_take_of_lt hlt, hf]
    rfl
  rw [List.getElem?_map, hc] at hbatch
  exact Option.some.inj hbatch

namespace Advances

variable {table : RuleTable} {new all : List Commit} {rules : RuleSet} {once first again : Disk}

end Advances

/-! ## Two runs -/

namespace Resumes

variable {table : RuleTable} {new all : List Commit} {rules : RuleSet} {once first again : Disk}

end Resumes

end Layout

end Quarantine
