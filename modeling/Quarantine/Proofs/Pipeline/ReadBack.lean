import Quarantine.Proofs.Pipeline.Attempts
import Quarantine.Proofs.Redaction

/-!
# Reading what was committed

Whatever was attempted at a workload of whole numbers, its quarantine is read as the quarantined
records of the committed files, or it is not read at all: a row holds its record one level down,
and the input may nest as deep as the reader takes.

    all of them nest no deeper than maxDepth - 1   the quarantine and its processed form are read
    one of them nests deeper                       reading the quarantine fails
-/

namespace Quarantine.Workload

open Quarantine.Disk Quarantine.Job Quarantine.Json

variable {w : Workload} {n : Nat} {d : Disk} {s : Surroundings}

/-- That the numbers in the files are whole; the rules come from some table. -/
structure Whole (w : Workload) : Prop where
  numbers : ∀ f ∈ w.files, ∀ r ∈ f.2, ∃ bound, r.toValue.fits bound = true
  compiled : ∃ table columns, RuleSet.compile table columns = .ok w.rules

/-- That the quarantined records of the first `n` files can stand in rows. -/
def Shallow (w : Workload) (n : Nat) : Prop :=
  ∀ id < n, ∀ q ∈ (w.outcomeAt id "").quarantined,
    q.record.toValue.nests (maxDepth - 1) = true

theorem regular_recordsAt (hw : w.Sound) (hwhole : w.Whole) {id : Nat} {r : Record}
    (hr : r ∈ w.recordsAt id) : r.Regular := by
  unfold recordsAt at hr
  cases hf : w.files[id]? with
  | none =>
    rw [hf] at hr
    exact absurd hr List.not_mem_nil
  | some f =>
    rw [hf] at hr
    have hmem := List.mem_of_getElem? hf
    obtain ⟨content, text, -, -, hrecords⟩ := hw.holds f hmem
    exact Record.regular_of_records hrecords hr (hwhole.numbers f hmem r hr)

theorem regular_quarantined (hw : w.Sound) (hwhole : w.Whole) {id : Nat} {entryId : String}
    {q : Quarantined} (hq : q ∈ (w.outcomeAt id entryId).quarantined) : q.record.Regular := by
  rw [outcomeAt, BatchOutcome.quarantined_after, quarantined_routeAll] at hq
  obtain ⟨r, hr, rfl⟩ := List.mem_map.1 hq
  exact regular_recordsAt hw hwhole (List.mem_filter.1 hr).1

theorem Shallow.quarantined (h : w.Shallow n) (hw : w.Sound) (hwhole : w.Whole) {id : Nat}
    (hid : id < n) {q : Quarantined} (hq : q ∈ (w.outcomeAt id "").quarantined) :
    q.record.Storable :=
  (regular_quarantined hw hwhole hq).storable (h id hid q hq)

theorem Shallow.processed (h : w.Shallow n) (hw : w.Sound) (hwhole : w.Whole) {id : Nat}
    (hid : id < n) {p : Processed} (hp : p ∈ (w.outcomeAt id "").processed) :
    p.record.Storable := by
  obtain ⟨q, hq, rfl⟩ := List.mem_map.1 hp
  obtain ⟨table, columns, hcompile⟩ := hwhole.compiled
  exact Plan.storable_process (fun rule hm => RuleSet.storable_of_compile hcompile rule
    (List.mem_filter.1 hm).1) (h.quarantined hw hwhole hid hq)

/-- The quarantined records of the committed files are shown. -/
theorem Stands.shows_quarantine (hw : w.Sound) (hwhole : w.Whole) (h : w.Stands n d)
    (hshallow : w.Shallow n) : w.layout.quarantine.Shows Quarantined.parse?
      (w.checkpointAt n).batches d
      ((List.range n).flatMap fun id => (w.outcomeAt id "").quarantined) :=
  h.shows (k := .quarantine) hw (by decide) fun _ path hid =>
    Quarantined.ofBytes_render (fun _ hq => hshallow.quarantined hw hwhole hid hq) path

/-- The processed forms of the quarantined records of the committed files are shown. -/
theorem Stands.shows_processed (hw : w.Sound) (hwhole : w.Whole) (h : w.Stands n d)
    (hshallow : w.Shallow n) : w.layout.processed.Shows Processed.parse?
      (w.checkpointAt n).batches d
      ((List.range n).flatMap fun id => (w.outcomeAt id "").processed) :=
  h.shows (k := .processed) hw (by decide) fun _ path hid =>
    Processed.ofBytes_render (fun _ hp => hshallow.processed hw hwhole hid hp) path

/-- What is shown of the quarantine has no record that nests too deep. -/
theorem Stands.shallow_of_shows (hw : w.Sound) (hwhole : w.Whole) (h : w.Stands n d)
    {rows : List Quarantined} (hrows : w.layout.quarantine.Shows Quarantined.parse?
      (w.checkpointAt n).batches d rows) : w.Shallow n := by
  intro id hid q hq
  cases hdeep : q.record.toValue.nests (maxDepth - 1) with
  | true => rfl
  | false =>
    obtain ⟨names, ids, part, hnames, -, hmem, hpart, -⟩ := hrows
    have hne : (w.outcomeAt id "").rows .quarantine ≠ [] :=
      List.ne_nil_of_mem (List.mem_map_of_mem (f := Quarantined.toValue) hq)
    have hfilled : id ∈ w.filled .quarantine n := mem_filled.2 ⟨hid, hne⟩
    have hin : id ∈ ids :=
      (hmem id).2 ((h.mem_names_iff (k := .quarantine) hw (by decide) hnames).1 hfilled)
    have hread := hpart id hin
    obtain ⟨e, he⟩ := Quarantined.ofBytes_refused (fun q hq => regular_quarantined hw hwhole hq) hq
      hdeep (w.layout.quarantine.partPath id)
    have hfile := h.read_part (k := .quarantine) (by decide) hfilled
    rw [PartTable.rowsIn, show w.layout.quarantine = w.layout.table .quarantine from rfl, hfile]
      at hread
    cases hread.symm.trans he

/-- After any attempts there is a checkpoint of some first files, and the tables of quarantined and
of processed records are read as those of these files, as long as no quarantined record nests as
deep as the reader takes.  If one does, the quarantine is not read. -/
theorem read_after_attempts (hw : w.Sound) (hwhole : w.Whole) (attempts : List Attempt) :
    ∃ n ≤ w.files.length, ∀ s,
      (Checkpoint.load w.layout.checkpoint).outcome s (w.after attempts).disk =
        (.ok (w.checkpointAt n), (w.after attempts).disk) ∧
      (w.Shallow n →
        (w.layout.quarantine.readCommitted Quarantined.parse? (w.checkpointAt n).batches).outcome s
            (w.after attempts).disk =
          (.ok ((List.range n).flatMap fun id => (w.outcomeAt id "").quarantined),
            (w.after attempts).disk) ∧
        (w.layout.processed.readCommitted Processed.parse? (w.checkpointAt n).batches).outcome s
            (w.after attempts).disk =
          (.ok ((List.range n).flatMap fun id => (w.outcomeAt id "").processed),
            (w.after attempts).disk)) ∧
      (¬ w.Shallow n → ¬ Succeeds s
        (w.layout.quarantine.readCommitted Quarantined.parse? (w.checkpointAt n).batches)
        (w.after attempts).disk) := by
  obtain ⟨n, hstands, -⟩ := recoverable_after hw attempts
  refine ⟨n, hstands.bounded, fun s => ⟨?_, fun hshallow => ⟨?_, ?_⟩, fun hdeep => ?_⟩⟩
  · exact Checkpoint.load_of_storedAt hstands.storedAt fun id => lt_of_mem_batches hw hstands
  · exact (hstands.shows_quarantine hw hwhole hshallow).outcome
  · exact (hstands.shows_processed hw hwhole hshallow).outcome
  · intro hread
    obtain ⟨rows, hrows⟩ := PartTable.succeeds_readCommitted_iff.1 hread
    exact hdeep (hstands.shallow_of_shows hw hwhole hrows)

/-! ### A case -/

theorem whole_sample : sample.Whole where
  numbers f hf := by
    have hall : (sample.files.all fun f => f.2.all fun r => r.toValue.fits 1) = true := by
      decide +kernel
    exact fun r hr => ⟨1, List.all_eq_true.1 (List.all_eq_true.1 hall f hf) r hr⟩
  compiled := by
    show ∃ table columns, RuleSet.compile table columns =
      .ok ((RuleSet.compile .standard ["c"]).toOption.getD .empty)
    cases hc : RuleSet.compile .standard ["c"] with
    | ok rules => exact ⟨.standard, ["c"], hc⟩
    | error e => exact ⟨⟨[]⟩, [], rfl⟩

end Quarantine.Workload
