import Quarantine.Proofs.Pipeline.Durability
import Quarantine.Proofs.Storage.Records

/-!
# Parts of their own

What a failed attempt wrote stays until the root is opened again, and shows in a batch that is
committed meanwhile where that batch has no rows itself.  As long as nothing is left at the next
number when a batch is committed, the parts of every committed batch are those of its own rows.

    Exact l cs d     the part of each commit in each table is its rows, or there is none
    Unused l n d     no table has a part with the number n

    a root is opened    Exact cs d                   → Exact cs d' ∧ Unused cs.length d'
    a batch is run      Exact cs d ∧ Unused …  d     → Exact (cs ++ [c]) d' ∧ Unused … d'
-/

namespace Quarantine

open Quarantine.Disk Quarantine.Job Quarantine.Json

variable {l : Layout} {cs : List Commit} {s : Surroundings} {d d' : Disk}

/-- The content of a part with some rows; for none there is no part. -/
def Rows.content? (rows : List Value) : Option ByteArray :=
  if rows = [] then none else some (Rows.render rows).toUTF8

/-- What rules quarantine is read from its part again. -/
theorem Quarantined.ofBytes_routeAll (rules : RuleSet) {records : List Record}
    (h : ∀ r ∈ records, r.Storable) (path : Path) :
    Rows.ofBytes path (Rows.decoded Quarantined.parse?) (Rows.render
      ((routeAll rules records).quarantined.map Quarantined.toValue)).toUTF8 =
        .ok (routeAll rules records).quarantined := by
  refine Quarantined.ofBytes_render (fun q hq => ?_) path
  rw [quarantined_routeAll] at hq
  obtain ⟨r, hr, rfl⟩ := List.mem_map.1 hq
  exact h r (List.mem_filter.1 hr).1

namespace Layout

/-- That the part of each commit in each table is that of its rows. -/
def Exact (l : Layout) (cs : List Commit) (d : Disk) : Prop :=
  ∀ id c, cs[id]? = some c → ∀ k, l.partFile? d k id = Rows.content? (c.outcome.rows k)

/-- That no table has a part with a number. -/
def Unused (l : Layout) (n : Nat) (d : Disk) : Prop := ∀ k, l.partFile? d k n = none

theorem exact_nil (l : Layout) (d : Disk) : l.Exact [] d := fun _ _ h => by cases h

theorem unused_of_empty (h : EmptyRoot d l.root) (n : Nat) : l.Unused n d :=
  fun _ => file?_of_none (h.nothing _ (l.below_placeOf _))

theorem Exact.retained (h : l.Exact cs d) (hr : l.Retains cs.length d d') : l.Exact cs d' := by
  intro id c hc k
  rw [hr k id (List.getElem?_eq_some_iff.1 hc).1]
  exact h id c hc k

theorem Exact.concat {c : Commit} (h : l.Exact cs d)
    (hc : ∀ k, l.partFile? d k cs.length = Rows.content? (c.outcome.rows k)) :
    l.Exact (cs ++ [c]) d := by
  intro id c' hid k
  have hle : id < (cs ++ [c]).length := (List.getElem?_eq_some_iff.1 hid).1
  rw [List.length_append, List.length_singleton] at hle
  rcases Nat.lt_succ_iff_lt_or_eq.1 hle with hlt | rfl
  · rw [List.getElem?_append_left hlt] at hid
    exact h id c' hid k
  · rw [List.getElem?_concat_length] at hid
    obtain rfl := Option.some.inj hid
    exact hc k

/-! ### What is read -/

/-- That a part is read as some rows, a line for each; without rows there is no part. -/
def Holds (l : Layout) (d : Disk) (k : TableKind) (id : Nat) (rows : List Value) : Prop :=
  d.read ((l.table k).partPath id) = (Rows.content? rows).elim (.error .notFound) .ok

theorem Exact.owns (h : l.Exact cs d) (hk : l.Keeps cs d) (k : TableKind) : l.Owns cs d k := by
  intro id c hc node hg hrows
  obtain ⟨⟨content, rfl⟩, -⟩ := hk.permits hg
  have hpart := h id c hc k
  rw [partFile?, file?_of_get? hg, hrows] at hpart
  cases hpart

theorem Exact.holds (h : l.Exact cs d) (hk : l.Keeps cs d) {id : Nat} {c : Commit}
    (hc : cs[id]? = some c) (k : TableKind) : l.Holds d k id (c.outcome.rows k) := by
  rw [Holds, hk.read_part (List.getElem?_eq_some_iff.1 hc).1, h id c hc k]

/-- The quarantine shows the quarantined records of the commits, in their order. -/
theorem Exact.shows_quarantine (h : l.Exact cs d) (hk : l.Keeps cs d)
    (hstorable : ∀ c ∈ cs, ∀ r ∈ c.batch.records, r.Storable) :
    l.quarantine.Shows Quarantined.parse? (checkpointOf cs).batches d
      (cs.flatMap fun c => (routeAll c.rules c.batch.records).quarantined) := by
  refine hk.shows (h.owns hk .quarantine) fun c hc path => ?_
  have hrows : c.outcome.rows .quarantine =
      (routeAll c.rules c.batch.records).quarantined.map Quarantined.toValue := by
    rw [BatchOutcome.rows, Commit.outcome, BatchOutcome.quarantined_of]
  rw [hrows]
  exact Quarantined.ofBytes_routeAll c.rules (hstorable c hc) path

end Layout

namespace Runner

variable {r r' : Runner}

/-! ## Opening -/

/-- Opening a root leaves no part at the next number. -/
theorem unused_open {rules : RuleSet} {source : Source} {options : Options} {fates rest : List Fate}
    (hk : l.Keeps cs d) (h64 : cs.length < 0x10000000000000000)
    (h : Action.runUnder s (open? rules source l options).run fates d =
      ⟨some (.ok r), rest, d'⟩) : l.Unused cs.length d' := by
  obtain ⟨-, -, rfl, hup⟩ := (ensures_open_keeps (s := s) hk rules source options).result h
  intro k
  have hpart := accounted_open h k cs.length (Nat.le_of_eq hup.next) h64
  refine hpart.trans ?_
  exact ite_self _

/-! ## Batches -/

/-- Whether a batch has rows for a table does not depend on its time or on the name of its entry. -/
theorem rows_outcome_eq_nil {entryId entryId' : String} {time time' : Instant} {batch : InputBatch}
    {k : TableKind} (h : (r.outcome entryId time batch).rows k = []) :
    (r.outcome entryId' time' batch).rows k = [] := by
  cases k with
  | clean =>
    rw [BatchOutcome.rows, outcome, BatchOutcome.clean_of] at h ⊢
    exact h
  | quarantine =>
    rw [BatchOutcome.rows, outcome, BatchOutcome.quarantined_of] at h ⊢
    exact h
  | processed =>
    rw [BatchOutcome.rows, List.map_eq_nil_iff, outcome,
      BatchOutcome.processed_of_eq_nil_iff] at h ⊢
    exact h
  | entries => cases h
  | metrics =>
    have hevents : (r.commitOf entryId time batch).outcome.events = [] := by
      rw [outcome_commitOf]
      exact List.map_eq_nil_iff.1 h
    exact rows_metrics_of_no_rules (Commit.events_eq_nil_iff.1 hevents) entryId' time' batch

/-- A batch that is reported wrote its rows, and the other parts are as before. -/
theorem parts_of_report {batch : InputBatch} {fates rest : List Fate} {report : BatchReport}
    (h : Action.runUnder s (r.runBatch batch).run fates d =
      ⟨some (.ok (report, r')), rest, d'⟩) :
    ∃ entryId time, ∀ k id, r.layout.partFile? d' k id =
      if id = r.checkpoint.next then
        if (r.outcome entryId time batch).rows k = [] then r.layout.partFile? d k id
        else some (Rows.render ((r.outcome entryId time batch).rows k)).toUTF8
      else r.layout.partFile? d k id := by
  have hrun := h
  rw [runBatch_eq_begin, runUnder_bind] at hrun
  cases hbegin : Action.runUnder s (r.begin batch).run fates d with
  | mk result fates₁ d₁ =>
    rw [hbegin] at hrun
    rcases result with _ | e | ⟨time, o⟩
    · cases hrun
    · cases hrun
    · have hd₁ := disk_begin (s := s) (r := r) batch fates d
      rw [hbegin] at hd₁
      obtain rfl : d₁ = d := hd₁
      obtain ⟨entryId, time', rfl⟩ := outcome_of_begin hbegin
      obtain ⟨hparts, hdone⟩ := parts_of_runBatch hbegin h
      obtain ⟨-, hall⟩ := hdone _ rfl
      refine ⟨entryId, time', fun k id => (hparts k id).trans ?_⟩
      rw [Tried.leaves_of_passed]
      exact hall

/-- A batch that is committed where nothing was left has parts of its own rows, and nothing is
left at the next number. -/
theorem UpToDate.exact_of_report (h : r.UpToDate l cs d) (hk : l.Keeps cs d)
    (hexact : l.Exact cs d) (hunused : l.Unused cs.length d) {batch : InputBatch}
    {fates rest : List Fate} {report : BatchReport}
    (hrun : Action.runUnder s (r.runBatch batch).run fates d =
      ⟨some (.ok (report, r')), rest, d'⟩) {entryId : String} {time : Instant}
    (hk' : l.Keeps (cs ++ [r.commitOf entryId time batch]) d') :
    l.Exact (cs ++ [r.commitOf entryId time batch]) d' ∧
      l.Unused (cs ++ [r.commitOf entryId time batch]).length d' := by
  obtain ⟨entryId', time', hparts⟩ := parts_of_report hrun
  rw [h.layout, h.next] at hparts
  refine ⟨Layout.Exact.concat (hexact.retained fun k id hid => ?_) fun k => ?_, fun k => ?_⟩
  · rw [hparts, if_neg (Nat.ne_of_lt hid)]
  · rw [outcome_commitOf, Rows.content?]
    by_cases hrows : (r.outcome entryId time batch).rows k = []
    · rw [if_pos hrows, hparts, if_pos rfl, if_pos (rows_outcome_eq_nil hrows)]
      exact hunused k
    · rw [← outcome_commitOf] at hrows ⊢
      have hread := hk'.parts cs.length _ List.getElem?_concat_length k hrows
      rw [if_neg hrows, Layout.partFile?, ← Layout.place_part]
      exact file?_of_get? (read_ok_iff.1 hread).2
  · rw [List.length_append, List.length_singleton, hparts, if_neg (Nat.succ_ne_self _)]
    exact hk.no_part (Nat.lt_succ_self _)

end Runner
end Quarantine
