import Quarantine.Proofs.Pipeline.Runner
import Quarantine.Proofs.Storage.View

/-!
# What failed steps leave behind

A step that fails leaves the parts that it completed, and the next step writes under the same
number.  It replaces a part only where it has rows itself, so what is at the place of a part
after a batch is committed is

    the rows of the batch                              if it has rows for the table
    the rows of the last failed attempt that wrote any if it has none

and a committed batch shows rows that are not its own exactly in the second case.
-/

namespace Quarantine

open Quarantine.Disk Quarantine.Job Quarantine.Json

/-! ## Files -/

namespace Disk

variable {d d' : Disk}

/-- The content of the file at a place, if there is a file. -/
def file? (d : Disk) (pl : Place) : Option ByteArray :=
  match d.get? pl with
  | some (.file content) => some content
  | _ => none

theorem file?_congr {pl : Place} (h : d'.get? pl = d.get? pl) : d'.file? pl = d.file? pl := by
  rw [file?, file?, h]

theorem file?_of_get? {pl : Place} {content : ByteArray} (h : d.get? pl = some (.file content)) :
    d.file? pl = some content := by
  rw [file?, h]

theorem file?_of_none {pl : Place} (h : d.get? pl = none) : d.file? pl = none := by
  rw [file?, h]

theorem Grown.file? {at_ : Place → Prop} (h : Grown at_ d d') (pl : Place) :
    d'.file? pl = d.file? pl := by
  rcases h pl with he | ⟨-, hn, hd⟩
  · exact file?_congr he
  · rw [Disk.file?, Disk.file?, hn, hd]

end Disk

namespace Layout

variable {l : Layout} {d d' d'' : Disk}

/-- The content of a part, if it is there. -/
def partFile? (l : Layout) (d : Disk) (k : TableKind) (id : Nat) : Option ByteArray :=
  d.file? (l.placeOf (.part k id))

/-- That two disks have the same parts. -/
def SameParts (l : Layout) (d d' : Disk) : Prop := ∀ k id, l.partFile? d' k id = l.partFile? d k id

theorem SameParts.refl (l : Layout) (d : Disk) : l.SameParts d d := fun _ _ => rfl

theorem SameParts.trans (h : l.SameParts d d') (h' : l.SameParts d' d'') : l.SameParts d d'' :=
  fun k id => (h' k id).trans (h k id)

theorem sameParts_of_grown {at_ : Place → Prop} (h : Grown at_ d d') : l.SameParts d d' :=
  fun _ _ => h.file? _

theorem sameParts_of_partly {a : Slot} (ha : ∀ k id, a ≠ .part k id)
    (h : Partly (l.placeOf a) d d') : l.SameParts d d' :=
  fun k id => file?_congr (h.other _ fun he => ha k id (placeOf_inj.1 he).symm)

theorem sameParts_of_savedCheckpoint {content : ByteArray} (h : Written l.checkpoint content d d') :
    l.SameParts d d' := by
  refine fun k id => file?_congr (h.other _ ?_ ?_)
  · rw [place_checkpoint]
    exact fun he => nomatch placeOf_inj.1 he
  · rw [place_unfinishedCheckpoint]
    exact fun he => nomatch placeOf_inj.1 he

/-- A part that is written is the only one that changes. -/
theorem partFile?_of_written {k : TableKind} {id : Nat} {content : ByteArray}
    (h : Written ((l.table k).partPath id) content d d') (k' : TableKind) (id' : Nat) :
    l.partFile? d' k' id' = if k' = k ∧ id' = id then some content else l.partFile? d k' id' := by
  split
  · next hsame =>
    obtain ⟨rfl, rfl⟩ := hsame
    refine file?_of_get? ?_
    rw [← place_part]
    exact h.file
  · next hother =>
    refine file?_congr (h.other _ ?_ ?_)
    · rw [place_part]
      intro he
      obtain ⟨rfl, rfl⟩ := Slot.part.inj (placeOf_inj.1 he)
      exact hother ⟨rfl, rfl⟩
    · rw [place_unfinished]
      exact fun he => nomatch placeOf_inj.1 he

/-- The number of tables that the parts of a batch get past. -/
def tablesPassed (l : Layout) (s : Surroundings) (id : Nat) (o : BatchOutcome) :
    List TableKind → List Fate → Disk → Nat
  | [], _, _ => 0
  | k :: rest, fates, d =>
    match ((l.table k).writePart id (o.rows k)).run.runUnder s fates d with
    | ⟨some (.ok _), fates, d⟩ => tablesPassed l s id o rest fates d + 1
    | _ => 0

end Layout

/-! ## Jobs one after another -/

namespace Job

variable {α β : Type} {s : Surroundings}

theorem runUnder_bind (j : Job α) (f : α → Job β) (fates : List Fate) (d : Disk) :
    Action.runUnder s (j >>= f).run fates d = match Action.runUnder s j.run fates d with
      | ⟨some (.ok x), fates, d⟩ => Action.runUnder s (f x).run fates d
      | ⟨some (.error e), fates, d⟩ => ⟨some (.error e), fates, d⟩
      | ⟨none, fates, d⟩ => ⟨none, fates, d⟩ := by
  rw [ExceptT.run_bind, Action.runUnder_bind]
  cases Action.runUnder s j.run fates d with
  | mk result fates d =>
    rcases result with _ | e | x
    · rfl
    · rfl
    · rfl

end Job

namespace Runner

variable {r : Runner} {s : Surroundings} {d : Disk}

/-! ## One attempt -/

/-- What a batch begins with: its time, and what the rules make of its records. -/
def begin (r : Runner) (batch : InputBatch) : Job (Instant × BatchOutcome) := do
  let time ← r.time
  let entryId ← Job.ask .newId
  return (time, r.outcome entryId time batch)

theorem runBatch_eq_begin (r : Runner) (batch : InputBatch) : r.runBatch batch = (do
    let (time, o) ← r.begin batch
    r.store r.checkpoint.next o
    (r.committed o time batch).checkpoint.save r.layout.checkpoint
    return (r.report o batch, r.committed o time batch)) := by
  rw [runBatch_eq, begin]
  simp only [bind_assoc, pure_bind]

/-- An attempt to store a batch: what was to be stored, and the tables that it got past. -/
structure Tried where
  outcome : BatchOutcome
  passed : Nat

/-- What a step under some fates attempts to store; nothing, if the source gives no batch. -/
def tried (r : Runner) (s : Surroundings) (fates : List Fate) (d : Disk) : Option Tried :=
  match (r.source.next r.checkpoint).runUnder s fates d with
  | ⟨some (.ok (some batch), _), fates, d⟩ =>
    match (r.begin batch).run.runUnder s fates d with
    | ⟨some (.ok (_, o)), fates, d⟩ =>
      some ⟨o, r.layout.tablesPassed s r.checkpoint.next o TableKind.all fates d⟩
    | _ => none
  | _ => none

/-- The batch that the source gives a step under some fates, if it gives one. -/
def gives (r : Runner) (s : Surroundings) (fates : List Fate) (d : Disk) : Option InputBatch :=
  match ((r.source.next r.checkpoint).runUnder s fates d).result with
  | some (.ok batch, _) => batch
  | _ => none

/-- That an attempt wrote a part of a table. -/
def Tried.Wrote (t : Tried) (k : TableKind) : Prop :=
  k ∈ TableKind.all.take t.passed ∧ t.outcome.rows k ≠ []

instance (t : Tried) (k : TableKind) : Decidable (t.Wrote k) := inferInstanceAs (Decidable (_ ∧ _))

/-- What is at the place of a part after an attempt under its number. -/
def Tried.leaves (t : Tried) (k : TableKind) (before : Option ByteArray) : Option ByteArray :=
  if t.Wrote k then some (Rows.render (t.outcome.rows k)).toUTF8 else before

/-! ### Its parts -/

theorem runUnder_discard {α : Type} (j : Job α) (fates : List Fate) (d : Disk) :
    Action.runUnder s (discard j).run fates d = match Action.runUnder s j.run fates d with
      | ⟨some (.ok _), fates, d⟩ => ⟨some (.ok ()), fates, d⟩
      | ⟨some (.error e), fates, d⟩ => ⟨some (.error e), fates, d⟩
      | ⟨none, fates, d⟩ => ⟨none, fates, d⟩ := by
  show Action.runUnder s ((fun _ => ()) <$> j).run fates d = _
  rw [map_eq_pure_bind, runUnder_bind]
  cases Action.runUnder s j.run fates d with
  | mk result fates d => rcases result with _ | e | x <;> rfl

/-- Writing a part changes that part or none. -/
theorem parts_of_writePart (l : Layout) (k : TableKind) (id : Nat) (rows : List Value)
    (fates : List Fate) (d : Disk) :
    match Action.runUnder s ((l.table k).writePart id rows).run fates d with
    | ⟨some (.ok _), _, d'⟩ => ∀ k' id', l.partFile? d' k' id' =
        if (k' = k ∧ id' = id) ∧ rows ≠ [] then some (Rows.render rows).toUTF8
        else l.partFile? d k' id'
    | ⟨_, _, d'⟩ => l.SameParts d d' := by
  obtain ⟨p, name, hn, hdir⟩ := l.exists_directory_table k
  have hwrite : Job.Ensures s (l.SameParts d) (fun _ d' => ∀ k' id', l.partFile? d' k' id' =
      if (k' = k ∧ id' = id) ∧ rows ≠ [] then some (Rows.render rows).toUTF8
      else l.partFile? d k' id') ((l.table k).writePart id rows) d := by
    refine PartTable.ensures_writePart hn hdir (fun hnone k' id' => ?_)
      (fun _ d₁ d' hg hp => ?_) fun hne d₁ d' hg hwritten k' id' => ?_
    · rw [if_neg fun h => h.2 hnone]
    · rw [l.place_unfinished] at hp
      exact (Layout.sameParts_of_grown hg).trans (Layout.sameParts_of_partly (fun _ _ he => by cases he) hp)
    · rw [Layout.partFile?_of_written hwritten, Layout.sameParts_of_grown hg k' id']
      by_cases hsame : k' = k ∧ id' = id
      · rw [if_pos hsame, if_pos ⟨hsame, hne⟩]
      · rw [if_neg hsame, if_neg fun h => hsame h.1]
  have hunder := Action.Ensures.under hwrite fates
  cases hr : Action.runUnder s ((l.table k).writePart id rows).run fates d with
  | mk result rest d' =>
    rw [hr] at hunder
    rcases result with _ | e | x
    · exact hunder
    · exact hunder
    · exact hunder

/-- Writing tables changes the parts of those that it gets past, if they have rows. -/
theorem parts_of_tables (id : Nat) (o : BatchOutcome) (ks : List TableKind) (fates : List Fate)
    (d : Disk) {result : Option (Except Failure Unit)} {rest : List Fate} {d' : Disk}
    (h : Action.runUnder s (ks.forM fun k =>
      discard ((r.layout.table k).writePart id (o.rows k))).run fates d = ⟨result, rest, d'⟩) :
    (∀ k' id', r.layout.partFile? d' k' id' =
      if id' = id ∧ k' ∈ ks.take (r.layout.tablesPassed s id o ks fates d) ∧ o.rows k' ≠ [] then
        some (Rows.render (o.rows k')).toUTF8
      else r.layout.partFile? d k' id') ∧
    (result = some (.ok ()) → r.layout.tablesPassed s id o ks fates d = ks.length) := by
  induction ks generalizing fates d with
  | nil =>
    obtain ⟨rfl, -, rfl⟩ : some (.ok ()) = result ∧ fates = rest ∧ d = d' := by
      cases h
      exact ⟨rfl, rfl, rfl⟩
    exact ⟨fun k' id' => by simp, fun _ => rfl⟩
  | cons k ks ih =>
    have hpart := parts_of_writePart (s := s) r.layout k id (o.rows k) fates d
    have h : Action.runUnder s (discard ((r.layout.table k).writePart id (o.rows k)) >>= fun _ =>
        ks.forM fun k => discard ((r.layout.table k).writePart id (o.rows k))).run fates d =
          ⟨result, rest, d'⟩ := h
    rw [runUnder_bind, runUnder_discard] at h
    rw [Layout.tablesPassed]
    cases hr : Action.runUnder s ((r.layout.table k).writePart id (o.rows k)).run fates d with
    | mk result₁ fates₁ d₁ =>
      rw [hr] at h hpart
      rcases result₁ with _ | e | path
      · obtain ⟨rfl, -, rfl⟩ : none = result ∧ fates₁ = rest ∧ d₁ = d' := by
          cases h
          exact ⟨rfl, rfl, rfl⟩
        refine ⟨fun k' id' => ?_, nofun⟩
        rw [List.take_zero, if_neg fun h => absurd h.2.1 List.not_mem_nil]
        exact hpart k' id'
      · obtain ⟨rfl, -, rfl⟩ : some (.error e) = result ∧ fates₁ = rest ∧ d₁ = d' := by
          cases h
          exact ⟨rfl, rfl, rfl⟩
        refine ⟨fun k' id' => ?_, fun he => by cases he⟩
        rw [List.take_zero, if_neg fun h => absurd h.2.1 List.not_mem_nil]
        exact hpart k' id'
      · obtain ⟨hrest, hall⟩ := ih fates₁ d₁ h
        dsimp only
        refine ⟨fun k' id' => ?_, fun he => ?_⟩
        · rw [hrest, List.take_succ_cons]
          by_cases hlater : id' = id ∧ k' ∈ ks.take (r.layout.tablesPassed s id o ks fates₁ d₁) ∧
              o.rows k' ≠ []
          · rw [if_pos hlater, if_pos ⟨hlater.1, List.mem_cons_of_mem k hlater.2.1, hlater.2.2⟩]
          · rw [if_neg hlater, hpart]
            by_cases hthis : (k' = k ∧ id' = id) ∧ o.rows k ≠ []
            · obtain ⟨⟨rfl, rfl⟩, hne⟩ := hthis
              rw [if_pos ⟨⟨rfl, rfl⟩, hne⟩, if_pos ⟨rfl, List.mem_cons_self, hne⟩]
            · rw [if_neg hthis, if_neg]
              rintro ⟨rfl, hm, hne⟩
              rcases List.mem_cons.1 hm with rfl | hm
              · exact hthis ⟨⟨rfl, rfl⟩, hne⟩
              · exact hlater ⟨rfl, hm, hne⟩
        · rw [List.length_cons, hall he]

/-- Beginning a batch changes nothing on the disk. -/
theorem disk_begin (batch : InputBatch) (fates : List Fate) (d : Disk) :
    (Action.runUnder s (r.begin batch).run fates d).disk = d := by
  have hbegin : Job.Ensures s (· = d) (fun _ d' => d' = d) (r.begin batch) d := by
    refine (ensures_time (S := (· = d)) (Q := fun _ => (· = d)) rfl fun _ _ => rfl).bind ?_
    rintro time d' rfl
    refine (ensures_ask (o := .newId) (S := (· = d')) (Q := fun _ d₁ => d₁ = d') rfl
      (fun _ _ => rfl) (fun _ _ => rfl) fun _ => rfl).bind ?_
    rintro entryId d₁ rfl
    exact ensures_pure rfl
  exact hbegin.disk fates

theorem disk_next (src : Source) (c : Checkpoint) (fates : List Fate) (d : Disk) :
    ((src.next c).runUnder s fates d).disk = d := by
  exact (Source.ensures_next (S := (· = d)) (Q := fun _ d' => d' = d) rfl
    fun _ _ _ => rfl).disk fates

theorem ensures_save_sameParts (c : Checkpoint) (l : Layout) (d : Disk) :
    Job.Ensures s (l.SameParts d) (fun _ d' => l.SameParts d d') (c.save l.checkpoint) d := by
  refine Checkpoint.ensures_save (by decide) ?_ (fun d₁ d' hg hp => ?_) fun d₁ d' hg hw => ?_
  · show l.checkpoint.temporary.place ≠ l.checkpoint.place
    rw [l.place_unfinishedCheckpoint, l.place_checkpoint]
    exact fun he => nomatch Layout.placeOf_inj.1 he
  · have hplace := l.place_unfinishedCheckpoint
    rw [Layout.checkpoint] at hplace
    rw [hplace] at hp
    exact (Layout.sameParts_of_grown hg).trans
      (Layout.sameParts_of_partly (fun _ _ he => by cases he) hp)
  · exact (Layout.sameParts_of_grown hg).trans (Layout.sameParts_of_savedCheckpoint hw)

theorem sameParts_save (c : Checkpoint) (l : Layout) (fates : List Fate) (d : Disk) :
    l.SameParts d (Action.runUnder s (c.save l.checkpoint).run fates d).disk :=
  (ensures_save_sameParts c l d).disk fates

theorem outcome_of_begin {batch : InputBatch} {fates fates' : List Fate} {d d' : Disk}
    {time : Instant} {o : BatchOutcome}
    (h : Action.runUnder s (r.begin batch).run fates d = ⟨some (.ok (time, o)), fates', d'⟩) :
    ∃ entryId time', o = r.outcome entryId time' batch := by
  have hbegin : Job.Ensures s (fun _ => True)
      (fun x _ => ∃ entryId time', x.2 = r.outcome entryId time' batch) (r.begin batch) d := by
    refine (ensures_time (Q := fun _ _ => True) trivial fun _ _ => trivial).bind ?_
    rintro time d₁ -
    refine (ensures_ask (o := .newId) (Q := fun _ _ => True) trivial (fun _ _ => trivial)
      (fun _ _ => trivial) fun _ => trivial).bind ?_
    rintro entryId d₂ -
    exact ensures_pure ⟨entryId, time, rfl⟩
  exact hbegin.result h

/-- After a batch was begun, the parts that it gets past are written, and it ends well only if
it gets past all of them. -/
theorem parts_of_runBatch {batch : InputBatch} {fates fates₁ : List Fate} {d d₁ : Disk}
    {time : Instant} {o : BatchOutcome}
    (hbegin : Action.runUnder s (r.begin batch).run fates d = ⟨some (.ok (time, o)), fates₁, d₁⟩)
    {result : Option (Except Failure (BatchReport × Runner))} {rest : List Fate} {d' : Disk}
    (h : Action.runUnder s (r.runBatch batch).run fates d = ⟨result, rest, d'⟩) :
    (∀ k id, r.layout.partFile? d' k id = if id = r.checkpoint.next then
        Tried.leaves ⟨o, r.layout.tablesPassed s r.checkpoint.next o TableKind.all fates₁ d₁⟩ k
          (r.layout.partFile? d k id)
      else r.layout.partFile? d k id) ∧
    ∀ x, result = some (.ok x) → x = (r.report o batch, r.committed o time batch) ∧
      r.layout.tablesPassed s r.checkpoint.next o TableKind.all fates₁ d₁ = TableKind.all.length := by
  have hd₁ := disk_begin (s := s) (r := r) batch fates d
  rw [hbegin] at hd₁
  obtain rfl : d₁ = d := hd₁
  rw [runBatch_eq_begin, runUnder_bind, hbegin] at h
  dsimp only at h
  rw [runUnder_bind, store_eq_forM] at h
  generalize hstore : Action.runUnder s (TableKind.all.forM fun k => discard
    ((r.layout.table k).writePart r.checkpoint.next (o.rows k))).run fates₁ d₁ = stored at h
  obtain ⟨result₂, fates₂, d₂⟩ := stored
  obtain ⟨hparts, hall⟩ := parts_of_tables _ o TableKind.all fates₁ d₁ hstore
  have hleaves (d' : Disk) (hsame : r.layout.SameParts d₂ d') (k : TableKind) (id : Nat) :
      r.layout.partFile? d' k id = if id = r.checkpoint.next then
        Tried.leaves ⟨o, r.layout.tablesPassed s r.checkpoint.next o TableKind.all fates₁ d₁⟩ k
          (r.layout.partFile? d₁ k id)
      else r.layout.partFile? d₁ k id := by
    rw [hsame k id, hparts, Tried.leaves]
    by_cases hid : id = r.checkpoint.next
    · rw [if_pos hid]
      by_cases hwrote : Tried.Wrote
          ⟨o, r.layout.tablesPassed s r.checkpoint.next o TableKind.all fates₁ d₁⟩ k
      · rw [if_pos ⟨hid, hwrote⟩, if_pos hwrote]
      · rw [if_neg fun h => hwrote h.2, if_neg hwrote]
    · rw [if_neg hid, if_neg fun h => hid h.1]
  rcases result₂ with _ | e | u
  · cases h
    exact ⟨hleaves d' (.refl _ d'), fun x he => by cases he⟩
  · cases h
    exact ⟨hleaves d' (.refl _ d'), fun x he => by cases he⟩
  · dsimp only at h
    rw [runUnder_bind] at h
    have hsave := sameParts_save (s := s) (r.committed o time batch).checkpoint r.layout fates₂ d₂
    generalize Action.runUnder s ((r.committed o time batch).checkpoint.save
      r.layout.checkpoint).run fates₂ d₂ = saved at h hsave
    obtain ⟨result₃, fates₃, d₃⟩ := saved
    rcases result₃ with _ | e | u
    · cases h
      exact ⟨hleaves d' hsave, fun x he => by cases he⟩
    · cases h
      exact ⟨hleaves d' hsave, fun x he => by cases he⟩
    · cases h
      exact ⟨hleaves d' hsave, fun x he => by cases he; exact ⟨rfl, hall rfl⟩⟩

/-! ### Its step -/

/-- The number of the batch that comes next after a step. -/
def nextAfter (r : Runner) : Except Failure (Option BatchReport) → Nat
  | .ok (some _) => r.checkpoint.next + 1
  | _ => r.checkpoint.next

theorem nextAfter_of_no_report (r : Runner) {result : Except Failure (Option BatchReport)}
    (h : ∀ report, result ≠ .ok (some report)) : r.nextAfter result = r.checkpoint.next := by
  rcases result with e | _ | report
  · rfl
  · rfl
  · exact absurd rfl (h report)

/-- What a step leaves is what it attempted to store leaves, and it reports a batch only if it
got past all tables with it. -/
theorem parts_of_step {fates : List Fate}
    {result : Option (Except Failure (Option BatchReport) × Runner)} {rest : List Fate}
    {d' : Disk} (h : r.step.runUnder s fates d = ⟨result, rest, d'⟩) :
    (∀ k id, r.layout.partFile? d' k id = if id = r.checkpoint.next then
        (r.tried s fates d).elim (r.layout.partFile? d k id)
          fun t => t.leaves k (r.layout.partFile? d k id)
      else r.layout.partFile? d k id) ∧
    ∀ x, result = some x → x.2.layout = r.layout ∧ x.2.checkpoint.next = r.nextAfter x.1 ∧
      ∀ report, x.1 = .ok (some report) → ∃ t batch, r.tried s fates d = some t ∧
        t.passed = TableKind.all.length ∧ r.gives s fates d = some batch ∧
        (∃ entryId time, t.outcome = r.outcome entryId time batch) ∧
        report = r.report t.outcome batch := by
  have hdisk := disk_next (s := s) r.source r.checkpoint fates d
  rw [step, Action.runUnder_bind] at h
  unfold tried gives
  generalize (r.source.next r.checkpoint).runUnder s fates d = asked at h hdisk ⊢
  obtain ⟨result₀, fates₀, d₀⟩ := asked
  obtain rfl : d₀ = d := hdisk
  rcases result₀ with _ | ⟨e | _ | batch, src⟩
  · cases h
    exact ⟨fun k id => by simp, fun x hx => by cases hx⟩
  · cases h
    exact ⟨fun k id => by simp, fun x hx => by cases hx; exact ⟨rfl, rfl, nofun⟩⟩
  · cases h
    exact ⟨fun k id => by simp, fun x hx => by cases hx; exact ⟨rfl, rfl, nofun⟩⟩
  · dsimp only at h ⊢
    rw [Action.runUnder_bind] at h
    have hbegin : ({ r with source := src } : Runner).begin batch = r.begin batch := rfl
    have hd₁ := disk_begin (s := s) (r := r) batch fates₀ d₀
    generalize hb : Action.runUnder s (r.begin batch).run fates₀ d₀ = begun at hd₁ ⊢
    obtain ⟨result₁, fates₁, d₁⟩ := begun
    obtain rfl : d₁ = d₀ := hd₁
    rcases result₁ with _ | e | ⟨time, o⟩
    · rw [runBatch_eq_begin, hbegin, runUnder_bind, hb] at h
      cases h
      exact ⟨fun k id => by simp, fun x hx => by cases hx⟩
    · rw [runBatch_eq_begin, hbegin, runUnder_bind, hb] at h
      cases h
      exact ⟨fun k id => by simp, fun x hx => by cases hx; exact ⟨rfl, rfl, nofun⟩⟩
    · generalize hrun : Action.runUnder s (({ r with source := src } : Runner).runBatch batch).run
        fates₀ d₁ = ran at h
      obtain ⟨result₂, fates₂, d₂⟩ := ran
      obtain ⟨hparts, hdone⟩ := parts_of_runBatch (r := { r with source := src }) hb hrun
      dsimp only
      rcases result₂ with _ | e | ⟨report, r₂⟩
      · cases h
        exact ⟨hparts, fun x hx => by cases hx⟩
      · cases h
        exact ⟨hparts, fun x hx => by cases hx; exact ⟨rfl, rfl, nofun⟩⟩
      · cases h
        obtain ⟨hx, hall⟩ := hdone _ rfl
        obtain ⟨rfl, rfl⟩ := Prod.mk.inj hx
        refine ⟨hparts, fun x hx => ?_⟩
        cases hx
        refine ⟨rfl, Checkpoint.next_commit .., fun report he => ?_⟩
        cases he
        exact ⟨_, batch, rfl, hall, rfl, outcome_of_begin hb, rfl⟩

/-! ## Courses -/

/-- Where a runner stands, and what was attempted since its last batch, the first attempt first. -/
structure Progress where
  runner : Runner
  disk : Disk
  tried : List Tried

/-- What the attempts at one number leave at the place of a part. -/
def leftBy (ts : List Tried) (k : TableKind) : Option ByteArray :=
  ts.foldl (fun before t => t.leaves k before) none

theorem leftBy_append (ts ts' : List Tried) (k : TableKind) :
    leftBy (ts ++ ts') k = ts'.foldl (fun before t => t.leaves k before) (leftBy ts k) :=
  List.foldl_append

/-- The course of a runner: it is opened, and then takes steps, each under fates of its own.
In between anything may be done to the disk but to the parts. -/
inductive Course : Progress → Prop
  | opened {rules : RuleSet} {source : Source} {layout : Layout} {options : Options}
      {s : Surroundings} {fates rest : List Fate} {d d' : Disk} {r : Runner}
      (h : Action.runUnder s (open? rules source layout options).run fates d =
        ⟨some (.ok r), rest, d'⟩) : Course ⟨r, d', []⟩
  | edited {p : Progress} {d' : Disk} (hp : Course p)
      (h : p.runner.layout.SameParts p.disk d') : Course ⟨p.runner, d', p.tried⟩
  | committed {p : Progress} {s : Surroundings} {fates rest : List Fate} {report : BatchReport}
      {r : Runner} {d' : Disk} (hp : Course p)
      (h : p.runner.step.runUnder s fates p.disk = ⟨some (.ok (some report), r), rest, d'⟩) :
      Course ⟨r, d', []⟩
  | failed {p : Progress} {s : Surroundings} {fates rest : List Fate}
      {result : Except Failure (Option BatchReport)} {r : Runner} {d' : Disk} (hp : Course p)
      (hno : ∀ report, result ≠ .ok (some report))
      (h : p.runner.step.runUnder s fates p.disk = ⟨some (result, r), rest, d'⟩) :
      Course ⟨r, d', p.tried ++ (p.runner.tried s fates p.disk).toList⟩

/-- That from the next number on, the only parts are those that the attempts left. -/
def Progress.Accounted (p : Progress) : Prop :=
  ∀ k id, p.runner.checkpoint.next ≤ id → id < 0x10000000000000000 →
    p.runner.layout.partFile? p.disk k id =
      if id = p.runner.checkpoint.next then leftBy p.tried k else none

/-- Opening discards the parts of batches that are not committed. -/
theorem accounted_open {rules : RuleSet} {source : Source} {layout : Layout} {options : Options}
    {fates rest : List Fate} {d' : Disk}
    (h : Action.runUnder s (open? rules source layout options).run fates d =
      ⟨some (.ok r), rest, d'⟩) : Progress.Accounted ⟨r, d', []⟩ := by
  have hopen : Job.Ensures s (fun _ => True) (fun r d' => Progress.Accounted ⟨r, d', []⟩)
      (open? rules source layout options) d := by
    refine (Layout.ensures_ensure (Q := fun _ d₁ => ∀ k, d₁.HasDirectory (layout.table k).directory)
      (fun _ _ => trivial) fun d₁ _ hdirs => hdirs).bind ?_
    rintro _ d₁ hdirs
    refine Job.Ensures.bind (M := fun _ d' => d' = d₁)
      ((reads_load _).ensures trivial fun _ => rfl) ?_
    rintro c d' rfl
    refine (Layout.ensures_discardAll (Q := fun _ d₂ => ∀ k id, c.next ≤ id →
      id < 0x10000000000000000 → layout.partFile? d₂ k id = none) hdirs (fun _ _ => trivial)
      fun d₂ _ hgone k id hid h64 => ?_).bind ?_
    · refine file?_of_none ?_
      rw [← Layout.place_part, PartTable.place_partPath]
      refine hgone k _ (PartTable.isName_partName id) ?_
      rw [PartTable.isStale_partName h64, Bool.not_eq_true']
      refine Bool.eq_false_iff.2 fun hm => ?_
      have := Checkpoint.lt_next hm
      omega
    rintro _ d₂ hnone
    refine Job.Ensures.bind (M := fun _ d' => d' = d₂)
      ((reads_readCommitted _ _ _).ensures trivial fun _ => rfl) ?_
    rintro history d' rfl
    refine ensures_pure fun k id hid h64 => ?_
    rw [hnone k id hid h64]
    exact (ite_self _).symm
  exact hopen.result h

/-- What is at the places of the parts from the next number on is accounted for. -/
theorem accounted_of_course {p : Progress} (hp : Course p) : p.Accounted := by
  induction hp with
  | opened h => exact accounted_open h
  | edited hp h ih =>
    intro k id hid h64
    exact (h k id).trans (ih k id hid h64)
  | @committed p s fates rest report r d' hp h ih =>
    obtain ⟨hparts, hafter⟩ := parts_of_step h
    obtain ⟨hlayout, hnext, -⟩ := hafter _ rfl
    intro k id hid h64
    have hnext : r.checkpoint.next = p.runner.checkpoint.next + 1 := hnext
    have hlayout : r.layout = p.runner.layout := hlayout
    have hid : r.checkpoint.next ≤ id := hid
    show r.layout.partFile? d' k id = if id = r.checkpoint.next then none else none
    rw [hlayout, hparts, if_neg (by omega), ih k id (by omega) h64, if_neg (by omega), ite_self]
  | @failed p s fates rest result r d' hp hno h ih =>
    obtain ⟨hparts, hafter⟩ := parts_of_step h
    obtain ⟨hlayout, hnext, -⟩ := hafter _ rfl
    have hlayout : r.layout = p.runner.layout := hlayout
    have hnext : r.checkpoint.next = p.runner.checkpoint.next :=
      hnext.trans (nextAfter_of_no_report p.runner hno)
    intro k id hid h64
    have hid : r.checkpoint.next ≤ id := hid
    show r.layout.partFile? d' k id = if id = r.checkpoint.next then
      leftBy (p.tried ++ (p.runner.tried s fates p.disk).toList) k else none
    rw [hlayout, hparts, hnext, ih k id (by omega) h64]
    by_cases hthis : id = p.runner.checkpoint.next
    · rw [if_pos hthis, if_pos hthis, if_pos hthis, leftBy_append]
      cases p.runner.tried s fates p.disk <;> rfl
    · rw [if_neg hthis, if_neg hthis, if_neg hthis]

/-! ## After a batch -/

theorem foldl_leaves_eq_none_iff {ts : List Tried} {k : TableKind} {before : Option ByteArray} :
    ts.foldl (fun before t => t.leaves k before) before = none ↔
      before = none ∧ ∀ t ∈ ts, ¬ t.Wrote k := by
  induction ts generalizing before with
  | nil => exact ⟨fun h => ⟨h, fun t ht => absurd ht List.not_mem_nil⟩, fun h => h.1⟩
  | cons t ts ih =>
    rw [List.foldl_cons, ih, List.forall_mem_cons, ← and_assoc]
    refine and_congr_left fun _ => ?_
    rw [Tried.leaves]
    by_cases hwrote : t.Wrote k
    · rw [if_pos hwrote]
      exact ⟨fun h => (by cases h), fun h => absurd hwrote h.2⟩
    · rw [if_neg hwrote]
      exact (and_iff_left hwrote).symm

/-- Attempts leave nothing for a table exactly if none of them wrote to it. -/
theorem leftBy_eq_none_iff {ts : List Tried} {k : TableKind} :
    leftBy ts k = none ↔ ∀ t ∈ ts, ¬ t.Wrote k :=
  foldl_leaves_eq_none_iff.trans (and_iff_right rfl)

theorem Tried.wrote_iff {t : Tried} (h : t.passed = TableKind.all.length) {k : TableKind} :
    t.Wrote k ↔ t.outcome.rows k ≠ [] := by
  rw [Tried.Wrote, h, List.take_length]
  exact and_iff_right (TableKind.mem_all k)

/-- An attempt that got past all tables leaves its rows where it has some. -/
theorem Tried.leaves_of_passed {t : Tried} (h : t.passed = TableKind.all.length) (k : TableKind)
    (before : Option ByteArray) : t.leaves k before =
      if t.outcome.rows k = [] then before else some (Rows.render (t.outcome.rows k)).toUTF8 := by
  rw [leaves]
  by_cases hrows : t.outcome.rows k = []
  · rw [if_pos hrows, if_neg fun hwrote => (wrote_iff h).1 hwrote hrows]
  · rw [if_neg hrows, if_pos ((wrote_iff h).2 hrows)]

/-- After a batch is committed, the part of each table is its rows; where it has none, it is what
the failed attempts at its number left. -/
theorem parts_after_commit {p : Progress} (hp : Course p)
    (h64 : p.runner.checkpoint.next < 0x10000000000000000) {fates rest : List Fate}
    {report : BatchReport} {d' : Disk}
    (h : p.runner.step.runUnder s fates p.disk = ⟨some (.ok (some report), r), rest, d'⟩) :
    ∃ batch o, p.runner.gives s fates p.disk = some batch ∧
      (∃ entryId time, o = p.runner.outcome entryId time batch) ∧
      report = p.runner.report o batch ∧
      ∀ k, p.runner.layout.partFile? d' k report.batch =
        if o.rows k = [] then leftBy p.tried k else some (Rows.render (o.rows k)).toUTF8 := by
  obtain ⟨hparts, hafter⟩ := parts_of_step h
  obtain ⟨-, -, hreport⟩ := hafter _ rfl
  obtain ⟨t, batch, htried, hpassed, hgives, houtcome, rfl⟩ := hreport report rfl
  refine ⟨batch, t.outcome, hgives, houtcome, rfl, fun k => ?_⟩
  show p.runner.layout.partFile? d' k p.runner.checkpoint.next = _
  have hbefore := accounted_of_course hp k p.runner.checkpoint.next (Nat.le_refl _) h64
  rw [if_pos rfl] at hbefore
  rw [hparts, if_pos rfl, htried, Option.elim_some, hbefore, Tried.leaves_of_passed hpassed]

/-- A committed batch shows only its own rows if no failed attempt at its number wrote to a table
that the batch has no rows for. -/
theorem own_parts_after_commit {p : Progress} (hp : Course p)
    (h64 : p.runner.checkpoint.next < 0x10000000000000000) {fates rest : List Fate}
    {report : BatchReport} {d' : Disk}
    (h : p.runner.step.runUnder s fates p.disk = ⟨some (.ok (some report), r), rest, d'⟩) :
    ∃ batch o, p.runner.gives s fates p.disk = some batch ∧
      (∃ entryId time, o = p.runner.outcome entryId time batch) ∧
      report = p.runner.report o batch ∧
      ((∀ k, p.runner.layout.partFile? d' k report.batch =
          if o.rows k = [] then none else some (Rows.render (o.rows k)).toUTF8) ↔
        ∀ t ∈ p.tried, ∀ k, t.Wrote k → o.rows k ≠ []) := by
  obtain ⟨batch, o, hgives, houtcome, hreport, hparts⟩ := parts_after_commit hp h64 h
  refine ⟨batch, o, hgives, houtcome, hreport, fun hown t ht k hwrote hrows => ?_, fun hall k => ?_⟩
  · have hleft := (hparts k).symm.trans (hown k)
    rw [if_pos hrows, if_pos hrows] at hleft
    exact leftBy_eq_none_iff.1 hleft t ht hwrote
  · rw [hparts k]
    by_cases hrows : o.rows k = []
    · rw [if_pos hrows, if_pos hrows]
      exact leftBy_eq_none_iff.2 fun t ht hwrote => hall t ht k hwrote hrows
    · rw [if_neg hrows, if_neg hrows]

end Runner
end Quarantine
