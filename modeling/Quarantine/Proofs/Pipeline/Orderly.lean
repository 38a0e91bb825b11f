import Quarantine.Proofs.Pipeline.OwnParts
import Quarantine.Proofs.Pipeline.SelectionHistory

/-!
# Orderly lives

After a failure a root is opened again before the next batch is committed.  Then no batch shows
what a failed attempt left: the parts of the committed batches are those of their own rows.

    Orderly l start left hs x   hs was seen until x; left tells whether something failed since the
                                root was opened
    Orderly l start left hs x → the commits of hs have their parts and no others
-/

namespace Quarantine

open Quarantine.Disk Quarantine.Job

/-- A life in which nothing is committed after a failure but by a runner that is opened after it. -/
inductive Orderly (l : Layout) (start : Disk) : Bool → List Happening → World → Prop
  | begun : Orderly l start false [] ⟨start, none⟩
  | opened {left : Bool} {hs : List Happening} {x y : World} {rules : RuleSet} {frozen : Bool}
      (h : Orderly l start left hs x) (m : Move l x (some (.opened rules frozen)) y) :
      Orderly l start false (hs ++ [.opened rules frozen]) y
  | committed {hs : List Happening} {x y : World} {batch : InputBatch} {report : BatchReport}
      (h : Orderly l start false hs x) (m : Move l x (some (.committed batch report)) y) :
      Orderly l start false (hs ++ [.committed batch report]) y
  /-- Nothing was written, as when a step finds no batch. -/
  | idle {left : Bool} {hs : List Happening} {x y : World} (h : Orderly l start left hs x)
      (m : Move l x none y) (hd : y.disk = x.disk) : Orderly l start left hs y
  | failed {left : Bool} {hs : List Happening} {x y : World} (h : Orderly l start left hs x)
      (m : Move l x none y) : Orderly l start true hs y

variable {l : Layout} {start : Disk} {left : Bool} {hs : List Happening} {cs : List Commit}
  {x y : World}

theorem Orderly.life (h : Orderly l start left hs x) : Life l start hs x := by
  have hunseen {hs : List Happening} {x y : World} (h : Life l start hs x)
      (m : Move l x none y) : Life l start hs y := by
    have hy := h.moved m
    rw [Option.toList_none, List.append_nil] at hy
    exact hy
  induction h with
  | begun => exact .begun
  | opened _ m ih => exact ih.moved m
  | committed _ m ih => exact ih.moved m
  | idle _ m _ ih => exact hunseen ih m
  | failed _ m ih => exact hunseen ih m

/-! ## What is selected -/

/-- That the redactions of each commit were selected by the history up to it and with it. -/
def PerBatch (cs : List Commit) : Prop :=
  ∀ before c after, cs = before ++ c :: after → c.failed = .ofEvents (historyOf (before ++ [c]))

theorem perBatch_nil : PerBatch [] := by
  intro before c after h
  cases (List.append_eq_nil_iff.1 h.symm).2

theorem PerBatch.concat {c : Commit} (h : PerBatch cs)
    (hc : c.failed = .ofEvents (historyOf (cs ++ [c]))) : PerBatch (cs ++ [c]) := by
  intro before c' after hsplit
  rcases concat_eq_append_cons hsplit with ⟨rfl, rfl, -⟩ | ⟨after', -, rfl⟩
  · exact hc
  · exact h before c' after' rfl

/-- That no runner was opened to select redactions once. -/
def Unfrozen (hs : List Happening) : Prop := ∀ rules frozen, .opened rules frozen ∈ hs → frozen = false

theorem Unfrozen.of_append {hs' : List Happening} (h : Unfrozen (hs ++ hs')) : Unfrozen hs :=
  fun rules frozen hm => h rules frozen (List.mem_append_left _ hm)

/-- What a runner that was opened so selects by for its next commit. -/
theorem Runner.InSession.failed_commitOf {r : Runner} (h : r.InSession hs cs)
    (hunfrozen : Unfrozen hs) (hhistory : r.history = historyOf cs) (entryId : String)
    (time : Instant) (batch : InputBatch) : (r.commitOf entryId time batch).failed =
      .ofEvents (historyOf (cs ++ [r.commitOf entryId time batch])) := by
  obtain ⟨earlier, frozen, session, old, new, hhs, -, -, -, hfrozen⟩ := h
  obtain rfl : frozen = false := by
    refine hunfrozen r.rules frozen ?_
    rw [hhs]
    exact List.mem_append_right _ List.mem_cons_self
  rw [if_neg Bool.false_ne_true] at hfrozen
  rw [historyOf_concat, outcome_commitOf, ← hhistory, commitOf, failedWith, hfrozen,
    Option.getD_none]

/-! ## The commits of an orderly life -/

/-- That commits are those of what was seen, and have their parts and no others. -/
structure Tidy (l : Layout) (left : Bool) (hs : List Happening) (cs : List Commit) (x : World) :
    Prop where
  chronicle : Chronicle l hs cs x
  exact : l.Exact cs x.disk
  unused : left = false → cs.length < 0x10000000000000000 → l.Unused cs.length x.disk
  perBatch : Unfrozen hs → PerBatch cs

/-- What is not seen keeps the commits and their parts. -/
theorem Chronicle.of_unseen (h : Chronicle l hs cs x) (m : Move l x none y) :
    Chronicle l hs cs y ∧ l.Retains cs.length x.disk y.disk := by
  obtain ⟨new, hnew, hparts⟩ := h.move m
  rw [Option.toList_none, List.append_nil] at hnew
  have hlength := hnew.length_eq
  rw [List.length_append, h.length_eq] at hlength
  obtain rfl : new = [] := List.eq_nil_of_length_eq_zero (by omega)
  rw [List.append_nil] at hnew
  exact ⟨hnew, hparts⟩

theorem Tidy.opened (h : Tidy l left hs cs x) {rules : RuleSet} {frozen : Bool}
    (m : Move l x (some (.opened rules frozen)) y) :
    Tidy l false (hs ++ [.opened rules frozen]) cs y := by
  cases m with
  | @opened _ source options s fates rest r d hrun =>
    have hk := h.chronicle.keeps
    obtain ⟨hk', hc, rfl, hr⟩ :=
      (Runner.ensures_open_keeps (s := s) hk rules source options).result hrun
    exact ⟨h.chronicle.opened hk' hr, h.exact.retained hc.retains,
      fun _ h64 => Runner.unused_open hk h64 hrun, fun hu => h.perBatch hu.of_append⟩

theorem Tidy.committed (h : Tidy l false hs cs x) {batch : InputBatch} {report : BatchReport}
    (m : Move l x (some (.committed batch report)) y) :
    ∃ c, Tidy l false (hs ++ [.committed batch report]) (cs ++ [c]) y := by
  obtain ⟨r, source, s, fates, r', rest, hr, hr', h64, hrun⟩ := m.exists_ran
  obtain ⟨d, runner⟩ := y
  obtain rfl : runner = some r' := hr'
  have hup := h.chronicle.upToDate r hr
  obtain ⟨entryId, time, hy, -⟩ := h.chronicle.of_report hr source h64 hrun
  obtain ⟨hexact, hunused⟩ := (hup.supplied source).exact_of_report h.chronicle.keeps h.exact
    (h.unused rfl (hup.next ▸ h64)) hrun hy.keeps
  refine ⟨_, hy, hexact, fun _ _ => hunused, fun hu => (h.perBatch hu.of_append).concat ?_⟩
  exact (h.chronicle.session r hr).failed_commitOf hu.of_append hup.history entryId time batch

/-- In an orderly life the commits have their parts and no others. -/
theorem Orderly.exists_tidy (hempty : EmptyRoot start l.root) (h : Orderly l start left hs x) :
    ∃ cs, Tidy l left hs cs x := by
  induction h with
  | begun =>
    exact ⟨[], chronicle_begun hempty, Layout.exact_nil l start,
      fun _ _ => Layout.unused_of_empty hempty 0, fun _ => perBatch_nil⟩
  | opened _ m ih =>
    obtain ⟨cs, hcs⟩ := ih
    exact ⟨cs, hcs.opened m⟩
  | committed _ m ih =>
    obtain ⟨cs, hcs⟩ := ih
    obtain ⟨c, hc⟩ := hcs.committed m
    exact ⟨cs ++ [c], hc⟩
  | idle _ m hd ih =>
    obtain ⟨cs, hcs⟩ := ih
    obtain ⟨hy, hparts⟩ := hcs.chronicle.of_unseen m
    exact ⟨cs, hy, hcs.exact.retained hparts, fun hl h64 => hd ▸ hcs.unused hl h64, hcs.perBatch⟩
  | failed _ m ih =>
    obtain ⟨cs, hcs⟩ := ih
    obtain ⟨hy, hparts⟩ := hcs.chronicle.of_unseen m
    exact ⟨cs, hy, hcs.exact.retained hparts, nofun, hcs.perBatch⟩

end Quarantine
