import Quarantine.Proofs.Storage.Edits
import Quarantine.Proofs.Storage.Entries
import Quarantine.Proofs.Storage.Records
import Quarantine.Proofs.Storage.View

/-!
# Tables of parts as stores

Whatever is written to a table and discarded from it, the table holds for each batch the rows that
were written last and not discarded since.  That is all that can be read from it, by either of the
two readers of rows.

    readCommitted C after edits    =  the rows stored for the batches in C, in their order
    partIds after edits            =  the batches for which rows are stored
    discardUncommitted C           keeps what is in C and leaves nothing else behind
-/

namespace Quarantine

open Quarantine.Disk Quarantine.Job Quarantine.Json

namespace PartTable

/-! ## Tables that hold what is stored -/

/-- That the directory of a table has a file for each batch with rows stored, and besides no more
than files that were not completed. -/
structure Holds (t : PartTable) (store : Store) (d : Disk) : Prop where
  reachable : t.Reachable d
  there : ∀ name, t.nodeAt? d name ≠ none → d.HasDirectory t.directory
  part : ∀ id rows, store id = some rows →
    t.nodeAt? d (partName id) = some (.file (Rows.render rows).toUTF8)
  other : ∀ name, t.nodeAt? d name ≠ none →
    (∃ id, store id ≠ none ∧ name = partName id) ∨ IsUnfinished name ∧ t.Removable d name

section

variable {s : Surroundings} {t : PartTable} {d : Disk} {store : Store}

namespace Holds

theorem exists_file (h : t.Holds store d) {name : String} {node : Node}
    (hname : t.nodeAt? d name = some node) : ∃ content, node = .file content := by
  rcases h.other name (by rw [hname]; nofun) with ⟨id, hid, rfl⟩ | ⟨-, -, -, content, hfile⟩
  · obtain ⟨rows, hrows⟩ := Option.ne_none_iff_exists'.1 hid
    rw [h.part id rows hrows] at hname
    exact ⟨_, (Option.some.inj hname).symm⟩
  · rw [← nodeAt?, hname] at hfile
    exact ⟨content, Option.some.inj hfile⟩

theorem not_directory (h : t.Holds store d) (name : String) :
    t.nodeAt? d name ≠ some .directory := by
  intro hname
  obtain ⟨content, hfile⟩ := h.exists_file hname
  cases hfile

/-- The names in the table are those of its entries. -/
theorem exists_names (h : t.Holds store d) :
    ∃ names, t.Names d names ∧ ∀ name, name ∈ names ↔ t.nodeAt? d name ≠ none := by
  rcases h.reachable.clear.hasDirectory_or with hdir | hnone
  · refine ⟨_, .inl ⟨hdir, rfl⟩, fun name => ?_⟩
    rw [mem_children_iff, Option.ne_none_iff_exists']
    rfl
  · refine ⟨[], .inr ⟨hnone, rfl⟩, fun name => ?_⟩
    refine iff_of_false List.not_mem_nil fun hname => ?_
    exact hnone _ (hasDirectory_iff.1 (h.there name hname))

theorem isStale_partName_eq (hs : store.IsSound) {committed : Ascending Nat} {id : Nat}
    (hid : store id ≠ none) : isStale committed (partName id) = !committed.contains id := by
  obtain ⟨rows, hrows⟩ := Option.ne_none_iff_exists'.1 hid
  exact isStale_partName (hs id rows hrows).1

/-- What discarding keeps is of use. -/
theorem isStale_partName_of_kept (hs : store.IsSound) {committed : Ascending Nat} {id : Nat}
    (hid : (Edit.discard committed).apply store id ≠ none) :
    isStale committed (partName id) = false := by
  obtain ⟨hin, hid⟩ := Edit.apply_discard_ne_none_iff.1 hid
  rw [isStale_partName_eq hs hid, hin]
  rfl

/-- All that is in the table are files with proper names. -/
theorem removable (h : t.Holds store d) (hs : store.IsSound) {name : String}
    (hname : t.nodeAt? d name ≠ none) : t.Removable d name := by
  rcases h.other name hname with ⟨id, hid, rfl⟩ | ⟨-, hremovable⟩
  · obtain ⟨rows, hrows⟩ := Option.ne_none_iff_exists'.1 hid
    exact ⟨isName_partName id, Nat.le_trans (utf8ByteSize_partName
      (Nat.le_of_lt (hs id rows hrows).1)) (by decide), _, h.part id rows hrows⟩
  · exact hremovable

/-! ### Edits -/

theorem write (h : t.Holds store d) {id : Nat} {rows : List Value}
    (hid : id < 0x10000000000000000) : ∃ d', ((Edit.write id rows).job t).outcome s d = (.ok (), d') ∧
      t.Holds ((Edit.write id rows).apply store) d' := by
  cases hrows : rows.isEmpty with
  | true =>
    refine ⟨d, ?_, ?_⟩
    · rw [Edit.job, writePart, hrows, if_pos rfl]
      rfl
    · have hsame : (Edit.write id rows).apply store = store :=
        funext fun i => Edit.Spares.apply_eq fun _ => hrows
      rwa [hsame]
  | false =>
    obtain ⟨d', houtcome, hreachable, hdir, hentries⟩ :=
      exists_outcome_writePart (s := s) h.reachable hid hrows h.not_directory
    have hpart : t.nodeAt? d' (partName id) = some (.file (Rows.render rows).toUTF8) := by
      rw [hentries, if_pos rfl]
    have hsame {name : String} (hname : name ≠ partName id) (hthere : t.nodeAt? d' name ≠ none) :
        t.nodeAt? d' name = t.nodeAt? d name := by
      rw [hentries, if_neg hname] at hthere ⊢
      exact if_neg fun htemporary => hthere (if_pos htemporary)
    refine ⟨d', outcome_discard houtcome, hreachable, fun _ _ => hdir,
      fun i written hwritten => ?_, fun name hname => ?_⟩
    · by_cases hi : i = id
      · rw [hi, Edit.apply_write_self hrows] at hwritten
        rw [hi, hpart, Option.some.inj hwritten]
      · rw [Edit.apply_write_of_ne hi] at hwritten
        rw [hentries, if_neg fun he => hi (partName_injective he),
          if_neg (partName_ne_temporaryName i id), h.part i written hwritten]
    · by_cases hwritten : name = partName id
      · refine .inl ⟨id, ?_, hwritten⟩
        rw [Edit.apply_write_self hrows]
        nofun
      · have hnode := hsame hwritten hname
        rcases h.other name (hnode ▸ hname) with ⟨i, hi, rfl⟩ | ⟨hunfinished, hremovable⟩
        · have hne : i ≠ id := fun he => hwritten (congrArg partName he)
          exact .inl ⟨i, Edit.apply_write_of_ne hne ▸ hi, rfl⟩
        · exact .inr ⟨hunfinished, hremovable.of_nodeAt?_eq hnode⟩

/-- Discarding leaves the parts of the committed batches, and nothing else is left. -/
theorem discard (h : t.Holds store d) (hs : store.IsSound) (committed : Ascending Nat) :
    ∃ n d', (t.discardUncommitted committed).outcome s d = (.ok n, d') ∧
      t.Holds ((Edit.discard committed).apply store) d' ∧
      (∀ name, t.nodeAt? d' name ≠ none →
        ∃ id, (Edit.discard committed).apply store id ≠ none ∧ name = partName id) ∧
      (d.HasDirectory t.directory ∧ SameBut (t.IsStaleAt committed) d d' ∨ d' = d) := by
  rcases h.reachable.clear.hasDirectory_or with hdir | hnone
  · obtain ⟨n, d', houtcome, hreachable, hdir', hentries, hpruned⟩ :=
      exists_outcome_discardUncommitted (s := s) h.reachable hdir fun _ _ hname =>
        h.removable hs hname
    have hparts (name : String) (hname : t.nodeAt? d' name ≠ none) :
        ∃ id, (Edit.discard committed).apply store id ≠ none ∧ name = partName id := by
      rw [hentries] at hname
      split at hname
      · exact absurd rfl hname
      · next hfresh =>
        rcases h.other name hname with ⟨id, hid, rfl⟩ | ⟨hunfinished, -⟩
        · rw [isStale_partName_eq hs hid, Bool.not_eq_true', Bool.not_eq_false] at hfresh
          exact ⟨id, Edit.apply_discard_ne_none_iff.2 ⟨hfresh, hid⟩, rfl⟩
        · exact absurd (hunfinished.isStale committed) hfresh
    refine ⟨n, d', houtcome, ⟨hreachable, fun _ _ => hdir', fun id rows hrows => ?_,
      fun name hname => .inl (hparts name hname)⟩, hparts, .inl ⟨hdir, fun pl => ?_⟩⟩
    · have hfresh : isStale committed (partName id) = false :=
        isStale_partName_of_kept hs (hrows ▸ Option.some_ne_none rows)
      rw [hentries, hfresh, if_neg Bool.false_ne_true,
        h.part id rows (Edit.apply_discard_eq_some_iff.1 hrows).2]
    · refine (hpruned pl).imp_right fun hgone => ?_
      obtain ⟨hstale, ⟨content, hfile⟩, hnone⟩ := hgone
      refine ⟨hstale, ?_, ?_⟩
      · simp [hfile]
      · simp [hnone]
  · -- without a directory there is nothing to discard
    have hempty (name : String) : t.nodeAt? d name = none :=
      Decidable.of_not_not fun hname => hnone _ (hasDirectory_iff.1 (h.there name hname))
    have houtcome : (t.discardUncommitted committed).outcome s d = (.ok 0, d) :=
      outcome_discardUncommitted_of_fresh (.inr ⟨hnone, rfl⟩) fun _ hm => absurd hm List.not_mem_nil
    refine ⟨0, d, houtcome, ⟨h.reachable, h.there, fun id rows hrows => ?_, fun name hname =>
      absurd (hempty name) hname⟩, fun name hname => absurd (hempty name) hname, .inr rfl⟩
    exact h.part id rows (Edit.apply_discard_eq_some_iff.1 hrows).2

/-- Any edits can be made one after the other, and the table holds what they leave. -/
theorem run {edits : List Edit} (h : t.Holds store d) (hs : store.IsSound)
    (hedits : ∀ e ∈ edits, e.IsSound) : ∃ d', (edits.forM (Edit.job t)).outcome s d = (.ok (), d') ∧
      t.Holds (edits.foldl Edit.apply store) d' ∧ Store.IsSound (edits.foldl Edit.apply store) := by
  induction edits generalizing store d with
  | nil => exact ⟨d, rfl, h, hs⟩
  | cons e rest ih =>
    have he := hedits e List.mem_cons_self
    obtain ⟨d₁, hjob, hstep⟩ : ∃ d₁, (e.job t).outcome s d = (.ok (), d₁) ∧
        t.Holds (e.apply store) d₁ := by
      cases e with
      | write id rows => exact h.write he.1
      | discard committed =>
        obtain ⟨n, d₁, houtcome, hstep, -, -⟩ := h.discard (s := s) hs committed
        exact ⟨d₁, outcome_discard houtcome, hstep⟩
    obtain ⟨d', hrun, hholds, hsound⟩ := ih hstep (hs.apply he)
      fun f hf => hedits f (List.mem_cons_of_mem _ hf)
    exact ⟨d', (outcome_bind_of_outcome hjob).trans hrun, hholds, hsound⟩

/-! ### Reading -/

/-- The names of parts are those of the batches with rows stored. -/
theorem exists_name_iff (h : t.Holds store d) (hs : store.IsSound) {id : Nat} :
    (∃ name, t.nodeAt? d name ≠ none ∧ partId? name = some id) ↔ store id ≠ none := by
  constructor
  · rintro ⟨name, hname, hid⟩
    rcases h.other name hname with ⟨i, hi, rfl⟩ | ⟨hunfinished, -⟩
    · rwa [eq_of_partId?_partName hid]
    · rw [hunfinished.partId?] at hid
      cases hid
  · intro hid
    obtain ⟨rows, hrows⟩ := Option.ne_none_iff_exists'.1 hid
    refine ⟨partName id, ?_, partId?_partName (hs id rows hrows).1⟩
    rw [h.part id rows hrows]
    nofun

theorem exists_partIds (h : t.Holds store d) (hs : store.IsSound) :
    ∃ ids, t.partIds.outcome s d = (.ok ids, d) ∧
      ∀ id, ids.contains id = true ↔ store id ≠ none := by
  obtain ⟨names, hnames, hmem⟩ := h.exists_names
  refine ⟨_, outcome_bind_of_outcome hnames.outcome, fun id => ?_⟩
  rw [Ascending.contains_ofList, List.mem_filterMap, ← h.exists_name_iff hs]
  simp only [hmem]

theorem read_part (h : t.Holds store d) (hs : store.IsSound) {id : Nat} {rows : List Value}
    (hrows : store id = some rows) : d.read (t.partPath id) = .ok (Rows.render rows).toUTF8 := by
  have hfile := h.part id rows hrows
  refine read_ok_iff.2 ⟨?_, place_partPath t id ▸ hfile⟩
  exact (h.there _ (by rw [hfile]; nofun)).locate_join (isName_partName id) (Nat.le_trans
    (utf8ByteSize_partName (Nat.le_of_lt (hs id rows hrows).1)) (by decide))

/-- What is read of the committed batches is what each of their parts gives. -/
theorem outcome_readCommitted {α : Type} {parse? : String → Option α} (h : t.Holds store d)
    (hs : store.IsSound) {committed : Ascending Nat} {part : Nat → List α}
    (hpart : ∀ id rows, committed.contains id = true → store id = some rows →
      Rows.ofBytes (t.partPath id) (Rows.decoded parse?) (Rows.render rows).toUTF8 = .ok (part id))
    (hnone : ∀ id, committed.contains id = true → store id = none → part id = []) :
    (t.readCommitted parse? committed).outcome s d = (.ok (committed.items.flatMap part), d) := by
  obtain ⟨names, hnames, hmem⟩ := h.exists_names
  refine Shows.outcome ⟨names, committed.items.filter fun id => (store id).isSome, part, hnames,
    committed.ascends.filter _, fun id => ?_, fun id hid => ?_, ?_⟩
  · rw [List.mem_filter, ← Ascending.contains_iff, Option.isSome_iff_ne_none,
      ← h.exists_name_iff hs]
    simp only [hmem]
  · obtain ⟨hid, hsome⟩ := List.mem_filter.1 hid
    obtain ⟨rows, hrows⟩ := Option.isSome_iff_exists.1 hsome
    rw [rowsIn, h.read_part hs hrows]
    exact hpart id rows (Ascending.contains_iff.2 hid) hrows
  · refine (flatMap_filter_of_nil fun id hid hempty => ?_).symm
    exact hnone id (Ascending.contains_iff.2 hid)
      (Option.isNone_iff_eq_none.1 (Option.isSome_eq_false_iff.1 hempty))

/-- The text of a part of records is read. -/
theorem outcome_readText (h : t.Holds store d) (hs : store.IsSound) {id : Nat} {rows : List Value}
    (hrows : store id = some rows) :
    (readText (t.partPath id)).outcome s d = (.ok (Rows.render rows), d) :=
  Job.outcome_readText (h.read_part hs hrows) (Rows.fromUTF8?_toUTF8 _)

theorem outcome_readValues (h : t.Holds store d) (hs : store.IsSound) (committed : Ascending Nat) :
    (t.readCommitted Json.parse? committed).outcome s d =
      (.ok (committed.items.flatMap fun id => (store id).getD []), d) := by
  refine h.outcome_readCommitted hs (fun id rows _ hrows => ?_) fun id _ hnone => ?_
  · rw [hrows]
    exact Rows.ofBytes_values (hs id rows hrows).2
  · rw [hnone]
    rfl

/-- Where the rows are those of records, both readers give the records. -/
theorem outcome_readRecords (h : t.Holds store d) (hs : store.IsSound) {committed : Ascending Nat}
    {records : Nat → List Record} (hrecords : ∀ id, committed.contains id = true →
      (store id).getD [] = (records id).map Record.toValue) :
    (t.readCommitted Record.parse? committed).outcome s d =
        (.ok (committed.items.flatMap records), d) ∧
      ∀ id, committed.contains id = true → store id ≠ none → ∃ text,
        (readText (t.partPath id)).outcome s d = (.ok text, d) ∧
          ∀ path, Rows.records path text = .ok (records id) := by
  have hwritable (id : Nat) (rows : List Value) (hid : committed.contains id = true)
      (hrows : store id = some rows) : rows = (records id).map Record.toValue ∧
        ∀ r ∈ records id, r.toValue.Writable := by
    have hsame := hrecords id hid
    rw [hrows, Option.getD_some] at hsame
    exact ⟨hsame, fun r hr => (hs id rows hrows).2 _ (hsame ▸ List.mem_map_of_mem hr)⟩
  refine ⟨h.outcome_readCommitted hs (fun id rows hid hrows => ?_) fun id hid hnone => ?_,
    fun id hid hsome => ?_⟩
  · obtain ⟨rfl, hall⟩ := hwritable id rows hid hrows
    exact Rows.ofBytes_records hall
  · have hsame := hrecords id hid
    rw [hnone, Option.getD_none] at hsame
    exact List.map_eq_nil_iff.1 hsame.symm
  · obtain ⟨rows, hrows⟩ := Option.ne_none_iff_exists'.1 hsome
    obtain ⟨rfl, hall⟩ := hwritable id rows hid hrows
    exact ⟨_, h.outcome_readText hs hrows, fun path => Rows.records_render hall⟩

end Holds

/-! ## Discarding -/

/-- Who reads committed batches reads the same when files of no use are removed. -/
theorem readCommitted_eq_of_sameBut {d' : Disk} {α : Type} (parse? : String → Option α)
    {committed fewer : Ascending Nat} (hdir : d.HasDirectory t.directory)
    (hsame : SameBut (t.IsStaleAt committed) d d')
    (hfewer : ∀ id, fewer.contains id = true → committed.contains id = true) :
    ((t.readCommitted parse? fewer).outcome s d').1 =
      ((t.readCommitted parse? fewer).outcome s d).1 := by
  -- a name of no use is no part of a committed batch
  have hstale {name : String} {id : Nat} (hname : isStale committed name = true)
      (hid : partId? name = some id) : committed.contains id = false := by
    rcases isStale_iff.1 hname with hunfinished | ⟨i, hi, hout⟩
    · rw [hunfinished.partId?] at hid
      cases hid
    · rw [hi] at hid
      exact Option.some.inj hid ▸ hout
  refine (sameIn_readCommitted parse? hdir hsame (fun name hname id hid => ?_)
    fun id hid hat => ?_).result_eq
  · obtain ⟨other, hother, he⟩ := hname
    obtain rfl := List.singleton_inj.1 (List.append_cancel_left he)
    refine Bool.eq_false_iff.2 fun hin => ?_
    have hout := hstale hother hid
    rw [hfewer id hin] at hout
    cases hout
  · obtain ⟨name, hname, he⟩ := hat
    rw [place_partPath] at he
    obtain rfl := List.singleton_inj.1 (List.append_cancel_left he)
    rcases isStale_iff.1 hname with hunfinished | ⟨i, hi, hout⟩
    · exact not_isUnfinished_partName id hunfinished
    · rw [eq_of_partId?_partName hi, hfewer id hid] at hout
      cases hout

/-! ## Tables without parts -/

/-- That nothing is in the directory of a table, or nothing but files that were not completed. -/
structure Partless (t : PartTable) (d : Disk) : Prop where
  reachable : t.Reachable d
  there : ∀ name, t.nodeAt? d name ≠ none → d.HasDirectory t.directory
  unfinished : ∀ name, t.nodeAt? d name ≠ none → IsUnfinished name ∧ t.Removable d name

theorem partless_of_empty (h : t.Reachable d) (hempty : ∀ name, t.nodeAt? d name = none) :
    t.Partless d :=
  ⟨h, fun name hname => absurd (hempty name) hname, fun name hname => absurd (hempty name) hname⟩

theorem Partless.holds (h : t.Partless d) : t.Holds nothingStored d :=
  ⟨h.reachable, h.there, fun _ _ hrows => (nomatch hrows),
    fun name hname => .inr (h.unfinished name hname)⟩

/-- After any edits of a table without parts, the rows of committed batches are those written last
and not discarded since.  Discarding leaves the parts of the committed batches, no file that was
not completed, and nothing to discard; and whoever reads committed batches reads what was there
before.  Records are the same to the reader of tables and to the reader of texts. -/
theorem after_edits (h : t.Partless d) {edits : List Edit} (hedits : ∀ e ∈ edits, e.IsSound)
    (s : Surroundings) : ∃ d', (edits.forM (Edit.job t)).outcome s d = (.ok (), d') ∧
      (∀ committed, (t.readCommitted Json.parse? committed).outcome s d' =
        (.ok (committed.items.flatMap fun id => (stored edits id).getD []), d')) ∧
      (∀ committed, ∃ n d'' ids names,
        (t.discardUncommitted committed).outcome s d' = (.ok n, d'') ∧
        t.partIds.outcome s d' = (.ok ids, d') ∧
        t.partIds.outcome s d'' = (.ok (ids.filter committed.contains), d'') ∧
        t.names.outcome s d'' = (.ok names, d'') ∧ (∀ name ∈ names, ¬ IsUnfinished name) ∧
        (∀ fewer : Ascending Nat,
          (∀ id, fewer.contains id = true → committed.contains id = true) →
          ∀ (α : Type) (parse? : String → Option α),
            ((t.readCommitted parse? fewer).outcome s d'').1 =
              ((t.readCommitted parse? fewer).outcome s d').1) ∧
        (t.discardUncommitted committed).outcome s d'' = (.ok 0, d'')) ∧
      ∀ (committed : Ascending Nat) (records : Nat → List Record),
        (∀ id, committed.contains id = true →
          (stored edits id).getD [] = (records id).map Record.toValue) →
        (t.readCommitted Record.parse? committed).outcome s d' =
            (.ok (committed.items.flatMap records), d') ∧
          ∀ id, committed.contains id = true → stored edits id ≠ none → ∃ text,
            (readText (t.partPath id)).outcome s d' = (.ok text, d') ∧
              ∀ path, Rows.records path text = .ok (records id) := by
  obtain ⟨d', hrun, hholds, hsound⟩ := h.holds.run (s := s) (fun _ _ hrows => (nomatch hrows)) hedits
  refine ⟨d', hrun, hholds.outcome_readValues hsound, fun committed => ?_,
    fun committed records hrecords => hholds.outcome_readRecords hsound hrecords⟩
  obtain ⟨ids, hids, hmem⟩ := hholds.exists_partIds (s := s) hsound
  obtain ⟨n, d'', hdiscard, hholds', hparts, hsame⟩ := hholds.discard (s := s) hsound committed
  have hsound' : Store.IsSound ((Edit.discard committed).apply (stored edits)) :=
    hsound.apply trivial
  obtain ⟨ids', hids', hmem'⟩ := hholds'.exists_partIds (s := s) hsound'
  obtain ⟨names, hnames, hentries⟩ := hholds'.exists_names
  have hfiltered : ids' = ids.filter committed.contains := by
    refine Ascending.eq_of_contains fun id => ?_
    rw [hmem', Ascending.contains_filter, hmem, Edit.apply_discard_ne_none_iff]
    exact and_comm
  -- what is left are parts of committed batches
  have hleft : ∀ name ∈ names, ∃ id, name = partName id ∧ isStale committed name = false := by
    intro name hname
    obtain ⟨id, hid, rfl⟩ := hparts name ((hentries name).1 hname)
    exact ⟨id, rfl, Holds.isStale_partName_of_kept hsound hid⟩
  refine ⟨n, d'', ids, names, hdiscard, hids, hfiltered ▸ hids', hnames.outcome,
    fun name hname => ?_, fun fewer hfewer α parse? => ?_,
    outcome_discardUncommitted_of_fresh hnames fun name hname => ?_⟩
  · obtain ⟨id, rfl, -⟩ := hleft name hname
    exact not_isUnfinished_partName id
  · rcases hsame with ⟨hdir, hsame⟩ | rfl
    · exact readCommitted_eq_of_sameBut parse? hdir hsame hfewer
    · rfl
  · obtain ⟨id, rfl, hfresh⟩ := hleft name hname
    exact hfresh

end

/-! ## A case -/

namespace Edit

def sampleTable : PartTable := ⟨⟨"t"⟩⟩

def sampleRecord (n : Nat) : Record := Record.empty.put "a" (ofNat n)

/-- Batches whose numbers have ten digits and more, one of them written twice, and one that is not
committed. -/
def sample : List Edit :=
  [write 10000000000 [(sampleRecord 1).toValue],
    write 9999999999 [(sampleRecord 2).toValue, (sampleRecord 3).toValue],
    write 3 [(sampleRecord 4).toValue], write 9999999999 [(sampleRecord 5).toValue],
    discard (.ofList [2, 9999999999, 10000000000])]

end Edit

theorem partless_sampleTable : Edit.sampleTable.Partless Disk.empty :=
  partless_of_empty ⟨by decide, Path.isApart_of_not_mem (by decide), clear_empty (by decide)⟩
    fun _ => get?_empty (by simp)

/-- The batches are read in the order of their numbers, and not of the names of their files. -/
theorem after_edits_sample : Edit.sampleTable.Partless Disk.empty ∧
    (∀ e ∈ Edit.sample, e.IsSound) ∧
    ∃ d', (Edit.sample.forM (Edit.job Edit.sampleTable)).outcome ⟨.epoch, "id"⟩ Disk.empty =
        (.ok (), d') ∧
      (Edit.sampleTable.readCommitted Record.parse? (.ofList [3, 9999999999, 10000000000])).outcome
          ⟨.epoch, "id"⟩ d' = (.ok [Edit.sampleRecord 5, Edit.sampleRecord 1], d') := by
  have hwritable (n : Nat) : (Edit.sampleRecord n).toValue.Writable := ⟨rfl, rfl⟩
  have hsound : ∀ e ∈ Edit.sample, e.IsSound := by
    intro e he
    simp only [Edit.sample, List.mem_cons, List.not_mem_nil, or_false] at he
    rcases he with rfl | rfl | rfl | rfl | rfl
    · exact ⟨by decide, by simp [hwritable]⟩
    · exact ⟨by decide, by simp [hwritable]⟩
    · exact ⟨by decide, by simp [hwritable]⟩
    · exact ⟨by decide, by simp [hwritable]⟩
    · trivial
  obtain ⟨d', hrun, -, -, hrecords⟩ := after_edits partless_sampleTable hsound ⟨.epoch, "id"⟩
  refine ⟨partless_sampleTable, hsound, d', hrun, ?_⟩
  let records (id : Nat) : List Record :=
    if id = 9999999999 then [Edit.sampleRecord 5]
    else if id = 10000000000 then [Edit.sampleRecord 1] else []
  refine (hrecords (.ofList [3, 9999999999, 10000000000]) records fun id hid => ?_).1
  rw [Ascending.contains_ofList] at hid
  simp only [List.mem_cons, List.not_mem_nil, or_false] at hid
  rcases hid with rfl | rfl | rfl <;> rfl

end PartTable
end Quarantine
