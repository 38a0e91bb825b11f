import Quarantine.Proofs.Pipeline.Completion
import Quarantine.Rule.Table

/-!
# Any number of attempts

An attempt opens a root or takes a step, under any fates, or ends the program.  After any
sequence of attempts on an empty root the disk holds what an unbroken run over the first `n`
files would have left, for some `n`, and a runner that is still there, or one that is opened, can
finish the rest.

    attempts                    the disk after them
    open … crash … open step …  checkpoint 0 … n-1, parts 0 … n-1 as of an unbroken run
-/

namespace Quarantine

open Quarantine.Disk Quarantine.Job Quarantine.Json

/-- A disk, and a runner if a program is at work on it. -/
structure World where
  disk : Disk
  runner : Option Runner

inductive Attempt where
  | open (partitions : Nat) (s : Surroundings) (fates : List Fate)
  | step (s : Surroundings) (fates : List Fate)
  /-- The program ends. -/
  | crash

namespace Workload

/-- What an attempt makes of the world.  A runner that cannot be opened leaves the one before in
its place. -/
def attempt (w : Workload) (x : World) : Attempt → World
  | .open partitions s fates =>
    match (w.opening partitions).run.runUnder s fates x.disk with
    | ⟨some (.ok r), _, d⟩ => ⟨d, some r⟩
    | ⟨some (.error _), _, d⟩ => ⟨d, x.runner⟩
    | ⟨none, _, d⟩ => ⟨d, none⟩
  | .step s fates =>
    match x.runner with
    | none => x
    | some r =>
      match r.step.runUnder s fates x.disk with
      | ⟨some (_, r), _, d⟩ => ⟨d, some r⟩
      | ⟨none, _, d⟩ => ⟨d, none⟩
  | .crash => ⟨x.disk, none⟩

/-- The world after attempts on the disk of the start. -/
def after (w : Workload) (attempts : List Attempt) : World :=
  attempts.foldl w.attempt ⟨w.start, none⟩

variable {w : Workload} {n : Nat} {d : Disk}

/-! ## The invariant -/

/-- That the disk stands somewhere, and that a runner knows where. -/
def Recoverable (w : Workload) (x : World) : Prop :=
  ∃ n, w.Stands n x.disk ∧ ∀ r ∈ x.runner, w.Ready n r x.disk

theorem recoverable_of_stands (h : w.Stands n d) : w.Recoverable ⟨d, none⟩ :=
  ⟨n, h, fun _ hr => absurd hr (Option.not_mem_none _)⟩

theorem recoverable_of_ready {r : Runner} (h : w.Ready n r d) : w.Recoverable ⟨d, some r⟩ :=
  ⟨n, h.stands, fun _ hr => Option.some.inj hr ▸ h⟩

/-- A runner stays as it is while others leave the root where it stands. -/
theorem recoverable_of_kept {x : World} {d' : Disk} (h : ∀ r ∈ x.runner, w.Ready n r x.disk)
    (hstands : w.Stands n d') (hk : KeepsDirectories x.disk d') :
    w.Recoverable ⟨d', x.runner⟩ := by
  refine ⟨n, hstands, fun r hr => ⟨hstands, (h r hr).knows, ?_⟩⟩
  exact (h r hr).prepared.mono hk

theorem recoverable_open (hw : w.Sound) {x : World} (h : w.Recoverable x) (partitions : Nat)
    (s : Surroundings) (fates : List Fate) :
    w.Recoverable (w.attempt x (.open partitions s fates)) := by
  obtain ⟨n, hstands, hready⟩ := h
  have hopen := (ensures_open hw hstands s partitions).under fates
  have hkeeps := Action.runUnder_keepsDirectories (s := s) (w.opening partitions).run fates x.disk
  rw [attempt]
  generalize (w.opening partitions).run.runUnder s fates x.disk = aftermath at hopen hkeeps ⊢
  rcases aftermath with ⟨_ | e | r, rest, d⟩
  · exact recoverable_of_stands hopen
  · exact recoverable_of_kept hready hopen hkeeps
  · exact recoverable_of_ready ⟨hopen.1, hopen.2.1, hopen.2.2⟩

theorem recoverable_step (hw : w.Sound) {x : World} (h : w.Recoverable x) (s : Surroundings)
    (fates : List Fate) : w.Recoverable (w.attempt x (.step s fates)) := by
  obtain ⟨n, hstands, hready⟩ := h
  rw [attempt]
  cases hr : x.runner with
  | none => exact ⟨n, hstands, hready⟩
  | some r =>
    have hstep := (ensures_step (s := s) hw (hready r hr)).under fates
    dsimp only
    generalize r.step.runUnder s fates x.disk = aftermath at hstep ⊢
    rcases aftermath with ⟨_ | ⟨e | _ | report, r'⟩, rest, d⟩
    · exact recoverable_of_stands hstep
    · exact recoverable_of_ready hstep
    · exact recoverable_of_ready hstep.1
    · exact recoverable_of_ready hstep.1

theorem recoverable_attempt (hw : w.Sound) {x : World} (h : w.Recoverable x) (a : Attempt) :
    w.Recoverable (w.attempt x a) := by
  cases a with
  | «open» partitions s fates => exact recoverable_open hw h partitions s fates
  | step s fates => exact recoverable_step hw h s fates
  | crash =>
    obtain ⟨n, hstands, -⟩ := h
    exact recoverable_of_stands hstands

theorem recoverable_after (hw : w.Sound) (attempts : List Attempt) :
    w.Recoverable (w.after attempts) := by
  have hfold (x : World) (h : w.Recoverable x) : w.Recoverable (attempts.foldl w.attempt x) := by
    induction attempts generalizing x with
    | nil => exact h
    | cons a attempts ih => exact ih (w.attempt x a) (recoverable_attempt hw h a)
  rw [after]
  exact hfold _ (recoverable_of_stands hw.stands)

/-! ## What is committed -/

/-- The outcomes of the first files in an unbroken run, one for each identifier of an entry. -/
def ledger (w : Workload) (entryIds : List String) : List BatchOutcome :=
  outcomes w.rules w.time [] (entryIds.zip (w.files.map Prod.snd))

/-- That a disk holds what an unbroken run over the first `n` files leaves. -/
structure Holds (w : Workload) (n : Nat) (entryIds : List String) (d : Disk) : Prop where
  bounded : n ≤ w.files.length
  entries : entryIds.length = n
  /-- The checkpoint on the disk has the batches and the files. -/
  checkpoint : ∃ c, (∀ s, (Checkpoint.load w.layout.checkpoint).outcome s d = (.ok c, d)) ∧
    c.batches.items = List.range n ∧ c.inputs.items = (w.files.map Prod.fst).take n
  /-- The part of a batch holds the rows of its outcome; without rows there is none. -/
  part : ∀ (id : Nat) (o : BatchOutcome), (w.ledger entryIds)[id]? = some o → ∀ k,
    if o.rows k = [] then ∀ kind, d.inspect ((w.layout.table k).partPath id) ≠ .ok kind
    else d.read ((w.layout.table k).partPath id) = .ok (Rows.render (o.rows k)).toUTF8
  /-- No other file counts as a part of a committed batch. -/
  only : ∀ k found, d.list (w.layout.table k).directory = .ok found → ∀ name ∈ found.map Prod.fst,
    ∀ id, PartTable.partId? name = some id → id < n → name = PartTable.partName id
  /-- Each record of a file is clean or quarantined, and it is so once. -/
  each : ∀ (id : Nat) (o : BatchOutcome), (w.ledger entryIds)[id]? = some o →
    ∃ f : String × List Record, w.files[id]? = some f ∧
      (o.clean ++ o.quarantined.map Quarantined.record).Perm f.2 ∧
      (∀ r ∈ o.clean, w.rules.accepts r = true) ∧
      ∀ q ∈ o.quarantined, w.rules.accepts q.record = false

theorem getElem?_ledger {entryIds : List String} {id : Nat} {o : BatchOutcome}
    (ho : (w.ledger entryIds)[id]? = some o) :
    ∃ entryId, entryIds[id]? = some entryId ∧ o = w.outcomeAt id entryId := by
  rw [ledger, getElem?_outcomes] at ho
  obtain ⟨⟨entryId, records⟩, hzip, rfl⟩ := Option.map_eq_some_iff.1 ho
  obtain ⟨hentry, hrecords⟩ := List.getElem?_zip_eq_some.1 hzip
  refine ⟨entryId, hentry, ?_⟩
  have hlt : id < entryIds.length := (List.getElem?_eq_some_iff.1 hentry).1
  have hbefore : ((entryIds.zip (w.files.map Prod.snd)).take id).map Prod.snd =
      (w.files.take id).map Prod.snd := by
    rw [List.zip, List.take_zipWith, ← List.zip, List.map_snd_zip, List.map_take]
    rw [List.length_take, List.length_take, List.length_map]
    omega
  have hat : w.recordsAt id = records := by
    rw [recordsAt, ← List.getElem?_map, hrecords]
    rfl
  rw [hbefore, List.nil_append, outcomeAt, hat]
  rfl

/-- The identifiers of the entries of the committed batches. -/
theorem Stands.exists_entryIds (h : w.Stands n d) : ∃ entryIds : List String,
    entryIds.length = n ∧ ∀ id entryId, entryIds[id]? = some entryId → ∀ k,
      (w.outcomeAt id entryId).rows k ≠ [] →
        d.read ((w.layout.table k).partPath id) = .ok (w.partOf k id entryId) := by
  have hparts (id : Nat) : ∃ entryId, id < n → ∀ k, (w.outcomeAt id entryId).rows k ≠ [] →
      d.read ((w.layout.table k).partPath id) = .ok (w.partOf k id entryId) := by
    by_cases hid : id < n
    · obtain ⟨entryId, hparts⟩ := h.parts id hid
      exact ⟨entryId, fun _ => hparts⟩
    · exact ⟨"", fun h => absurd h hid⟩
  obtain ⟨choice, hchoice⟩ := Classical.skolem.1 hparts
  refine ⟨(List.range n).map choice, by simp, fun id entryId hid => ?_⟩
  rw [List.getElem?_map] at hid
  obtain ⟨m, hm, rfl⟩ := Option.map_eq_some_iff.1 hid
  obtain ⟨hlt, rfl⟩ := List.getElem?_eq_some_iff.1 hm
  rw [List.getElem_range]
  exact hchoice id (by simpa using hlt)

/-- Where a batch has no rows for a table there is nothing at the place of its part. -/
theorem Stands.no_part (h : w.Stands n d) {id : Nat} {entryId : String} {k : TableKind}
    (hrows : (w.outcomeAt id entryId).rows k = []) (kind : Kind) :
    d.inspect ((w.layout.table k).partPath id) ≠ .ok kind := by
  intro hk
  obtain ⟨-, node, hg, -⟩ := inspect_ok hk
  rw [w.layout.place_part] at hg
  obtain ⟨-, -, other, hother, -⟩ := h.permits hg
  exact (BatchOutcome.rows_ne_nil_iff _ _ _ _ entryId _ _).1 hother hrows

/-- Where the disk stands, it holds what an unbroken run leaves. -/
theorem Stands.holds (hw : w.Sound) (h : w.Stands n d) : ∃ entryIds, w.Holds n entryIds d := by
  obtain ⟨entryIds, hlength, hparts⟩ := h.exists_entryIds
  have hle : entryIds.length ≤ w.files.length := hlength ▸ h.bounded
  refine ⟨entryIds, h.bounded, hlength, ⟨w.checkpointAt n, fun s => ?_, ?_, ?_⟩,
    fun id o ho k => ?_, fun k found hl name hname id hid hlt => ?_, fun id o ho => ?_⟩
  · exact Checkpoint.load_of_storedAt h.storedAt fun id => lt_of_mem_batches hw h
  · rw [checkpointAt, Checkpoint.items_batches_after, length_take_names h.bounded]
  · obtain ⟨found, hl, hnames⟩ := hw.listed
    obtain ⟨-, rfl⟩ := list_ok hl
    have hsorted := Source.pairwise_wanted w.start w.input.place
    rw [hnames] at hsorted
    exact Ascending.items_ofList (hsorted.sublist (List.take_sublist n _))
  · obtain ⟨entryId, hentry, rfl⟩ := getElem?_ledger ho
    split
    · next hrows => exact h.no_part hrows
    · next hrows => exact hparts id entryId hentry k hrows
  · obtain ⟨-, rfl⟩ := list_ok hl
    obtain ⟨node, hg⟩ := Disk.mem_children_iff.1 hname
    rcases h.of_child hg with ⟨other, rfl, -, hsmall, -⟩ | ⟨other, rfl⟩
    · rw [PartTable.partId?_partName (hw.small_of_lt hsmall)] at hid
      rw [Option.some.inj hid]
    · rw [PartTable.partId?_temporaryName] at hid
      cases hid
  · obtain ⟨entryId, hentry, rfl⟩ := getElem?_ledger ho
    have hlt : id < w.files.length :=
      Nat.lt_of_lt_of_le (List.getElem?_eq_some_iff.1 hentry).1 hle
    refine ⟨w.files[id], List.getElem?_eq_getElem hlt, ?_, fun r hr => ?_, fun q hq => ?_⟩
    · have hat : w.recordsAt id = w.files[id].2 := by
        rw [recordsAt, List.getElem?_eq_getElem hlt]
        rfl
      rw [← hat]
      exact BatchOutcome.records_perm _ _ _ _ _
    · rw [outcomeAt, BatchOutcome.clean_after, clean_routeAll] at hr
      exact (List.mem_filter.1 hr).2
    · rw [outcomeAt, BatchOutcome.quarantined_after, quarantined_routeAll] at hq
      obtain ⟨r, hr, rfl⟩ := List.mem_map.1 hq
      have hrejected := (List.mem_filter.1 hr).2
      simpa using hrejected

/-- After any attempts the root is opened again if nothing is refused, where no file was on the way
to it at the start, and what is opened takes it to the last file. -/
theorem opens_after_attempts (hw : w.Sound) (hclear : w.start.Clear w.layout.root.names)
    (attempts : List Attempt) (partitions : Nat) (s : Surroundings) :
    ∃ r d', (w.opening partitions).outcome s (w.after attempts).disk = (.ok r, d') ∧
      ∀ s', ∃ summary r' d'' entryIds,
        r.run.run s' d' = ((.ok summary, r'), d'') ∧ w.Holds w.files.length entryIds d'' := by
  obtain ⟨n, hstands, -⟩ := recoverable_after hw attempts
  obtain ⟨r, hr⟩ := succeeds_opening (s := s) hw hstands hclear partitions
  have hopen : (w.opening partitions).outcome s (w.after attempts).disk =
      (.ok r, ((w.opening partitions).outcome s (w.after attempts).disk).2) := Prod.ext hr rfl
  obtain ⟨hstands', hknows, hprepared⟩ := (ensures_open hw hstands s partitions).of_outcome hopen
  refine ⟨r, _, hopen, fun s' => ?_⟩
  obtain ⟨summary, r', d'', hrun, hend⟩ :=
    succeeds_run (s := s') hw ⟨hstands', hknows, hprepared⟩
  obtain ⟨entryIds, hholds⟩ := hend.stands.holds hw
  exact ⟨summary, r', d'', entryIds, hrun, hholds⟩

/-! ### A case -/

theorem eq_ok_of_toOption {ε α : Type} {r : Except ε α} {x : α} (h : r.toOption = some x) :
    r = .ok x := by
  cases r with
  | error e => cases h
  | ok y => exact congrArg Except.ok (Option.some.inj h)

/-- The records of an input file, if it can be read. -/
@[irreducible]
def recordsOf (name text : String) : List Record :=
  (Rows.records (Path.join ⟨"in"⟩ name) text).toOption.getD []

/-- A disk with two input files and nothing else. -/
def sample : Workload where
  rules := (RuleSet.compile .standard ["c"]).toOption.getD .empty
  time := .epoch
  layout := ⟨⟨"t"⟩⟩
  input := ⟨"in"⟩
  files := [("a.ndjson", recordsOf "a.ndjson" "\x7b\"c\":\"123\"\x7d"),
    ("b.jsonl", recordsOf "b.jsonl" "\n")]
  start := ⟨[(["in"], .directory),
    (["in", "a.ndjson"], .file "\x7b\"c\":\"123\"\x7d".toUTF8),
    (["in", "b.jsonl"], .file "\n".toUTF8)], by decide⟩

end Workload
end Quarantine
