import Quarantine.Processing
import Quarantine.Proofs.Json.Merged
import Quarantine.Proofs.Json.Nesting
import Quarantine.Proofs.Storage.Rows
import Quarantine.Storage.Rows

/-!
# Rows with records in them

A row holds a record one level down, so a record that is to be read back nests one level less
than the reader takes.  Then quarantined and processed records are read as they were written, and
otherwise they are not read at all.

    parse? (render q) = some q, if the record of q nests no deeper than maxDepth - 1
    parse? (render p) = some p, if the record of p nests no deeper than maxDepth - 1
-/

namespace Quarantine

open Quarantine.Json

/-! ## Records -/

namespace Record

/-- That the numbers of a record are whole and each field comes once at every level, as it is with
the records of an input without fractions. -/
structure Regular (r : Record) : Prop where
  whole : ∃ bound, r.toValue.fits bound = true
  merged : r.toValue.merged = r.toValue

/-- That a record can be read back from a row. -/
structure Storable (r : Record) : Prop where
  fits : r.toValue.fits (maxDepth - 1) = true
  merged : r.toValue.merged = r.toValue

theorem Storable.regular {r : Record} (h : r.Storable) : r.Regular := ⟨⟨_, h.fits⟩, h.merged⟩

theorem Storable.nests {r : Record} (h : r.Storable) : r.toValue.nests (maxDepth - 1) = true :=
  (Value.fits_iff_nests h.fits).1 h.fits

theorem Regular.storable {r : Record} (h : r.Regular)
    (hnests : r.toValue.nests (maxDepth - 1) = true) : r.Storable := by
  obtain ⟨bound, hfits⟩ := h.whole
  exact ⟨(Value.fits_iff_nests hfits).2 hnests, h.merged⟩

theorem storable_iff {r : Record} : r.Storable ↔
    ∀ f ∈ r.fields, f.2.fits (maxDepth - 2) = true ∧ f.2.merged = f.2 := by
  have hfits : r.toValue.fits (maxDepth - 1) = true ↔
      ∀ f ∈ r.fields, f.2.fits (maxDepth - 2) = true := fitsFields_iff
  have hmerged := Value.merged_object_eq_iff r.distinct
  exact ⟨fun h f hf => ⟨hfits.1 h.fits f hf, hmerged.1 h.merged f hf⟩,
    fun h => ⟨hfits.2 fun f hf => (h f hf).1, hmerged.2 fun f hf => (h f hf).2⟩⟩

/-- Fields that come once are put into a record one after the other. -/
theorem fields_foldl_put {fs : Fields} {r : Record}
    (hd : (Fields.names (r.fields ++ fs)).Nodup) :
    (fs.foldl (fun r f => r.put f.1 f.2) r).fields = r.fields ++ fs := by
  induction fs generalizing r with
  | nil => exact (List.append_nil r.fields).symm
  | cons f rest ih =>
    have hf : f.1 ∉ Fields.names r.fields := by
      intro hmem
      rw [Fields.names, List.map_append] at hd
      exact (List.nodup_append.1 hd).2.2 f.1 hmem f.1 List.mem_cons_self rfl
    have hput : (r.put f.1 f.2).fields = r.fields ++ [f] := Fields.put_of_not_mem hf
    rw [List.foldl_cons, ih, hput, List.append_assoc, List.singleton_append]
    rw [hput, List.append_assoc, List.singleton_append]
    exact hd

/-- A written record is the record of its fields. -/
theorem ofValue?_toValue (r : Record) : ofValue? r.toValue = some r :=
  congrArg some (Record.ext ((fields_foldl_put (r := empty) r.distinct).trans
    (List.nil_append r.fields)))

/-- What is read from a line has each field once at every level. -/
theorem merged_of_record {line : String} {r : Record} (h : Rows.record line = .ok r) :
    r.toValue.merged = r.toValue := by
  unfold Rows.record at h
  split at h
  · cases h
  · next v hv =>
    obtain ⟨w, -, rfl⟩ := Option.map_eq_some_iff.1 hv
    split at h
    · next r' hr =>
      obtain rfl := Except.ok.inj h
      cases w with
      | object fs =>
        have hd : (Fields.names (mergedFields fs [])).Nodup := nodup_mergedFields List.nodup_nil
        have hsame : r'.toValue = (Value.object fs).merged := by
          have hput := (ofValue?_toValue ⟨mergedFields fs [], hd⟩).symm.trans hr
          rw [← Option.some.inj hput]
          rfl
        rw [hsame, Value.merged_merged]
      | _ => cases hr
    · cases h

end Record

theorem Rows.exists_line {α : Type} {path : Path} {row : String → Except String α}
    {lines : List (String × Nat)} {items : List α} (h : ofLines path row lines = .ok items)
    {a : α} (ha : a ∈ items) : ∃ line, row line = .ok a := by
  induction lines generalizing items with
  | nil =>
    obtain rfl := Except.ok.inj h
    exact absurd ha List.not_mem_nil
  | cons l rest ih =>
    obtain ⟨line, n⟩ := l
    unfold ofLines at h
    split at h
    · exact ih h ha
    · split at h
      · cases h
      · next b hb =>
        cases hrest : ofLines path row rest with
        | error e =>
          rw [hrest] at h
          cases h
        | ok others =>
          rw [hrest] at h
          obtain rfl := Except.ok.inj h
          rcases List.mem_cons.1 ha with rfl | ha
          · exact ⟨line, hb⟩
          · exact ih hrest ha

/-- The records of an input with whole numbers are regular. -/
theorem Record.regular_of_records {path : Path} {text : String} {records : List Record}
    (h : Rows.records path text = .ok records) {r : Record} (hr : r ∈ records)
    (hwhole : ∃ bound, r.toValue.fits bound = true) : r.Regular := by
  obtain ⟨line, hline⟩ := Rows.exists_line h hr
  exact ⟨hwhole, merged_of_record hline⟩

/-! ## Rows of values and of records -/

namespace Rows

variable {path : Path}

theorem ofBytes_values {rows : List Value} (h : ∀ v ∈ rows, v.Writable) :
    ofBytes path (decoded Json.parse?) (render rows).toUTF8 = .ok rows := by
  have hrows : ofBytes path (decoded Json.parse?) (render (rows.map id)).toUTF8 = .ok rows :=
    ofBytes_render (fun v hv => (h v hv).parse?) fun v hv => ⟨maxDepth, (h v hv).fits⟩
  rwa [List.map_id] at hrows

variable {records : List Record}

/-- A reader of files and a reader of texts take the same records. -/
theorem ofBytes_records (h : ∀ r ∈ records, r.toValue.Writable) :
    ofBytes path (decoded Record.parse?) (render (records.map Record.toValue)).toUTF8 =
      .ok records := by
  refine ofBytes_render (fun r hr => ?_) fun r hr => ⟨maxDepth, (h r hr).fits⟩
  rw [Record.parse?, (h r hr).parse?, Option.bind_some, Record.ofValue?_toValue]

theorem records_render (h : ∀ r ∈ records, r.toValue.Writable) :
    Rows.records path (render (records.map Record.toValue)) = .ok records := by
  have hfits : ∀ r ∈ records, ∃ depth, r.toValue.fits depth = true :=
    fun r hr => ⟨maxDepth, (h r hr).fits⟩
  rw [Rows.records, ofText, lines_render hfits]
  refine ofLines_map (fun r hr => ?_) (allBlank_render hfits) 1
  rw [record, (h r hr).parse?]
  dsimp only
  rw [Record.ofValue?_toValue]

end Rows

/-! ## Rows with records in them -/

namespace Quarantined

/-- The fields of a written quarantined record. -/
def fields (q : Quarantined) : Fields :=
  [("record", q.record.toValue), ("failed_rules", ofStrings q.failedRules)]

theorem exists_fits_toValue {q : Quarantined} (h : q.record.Regular) :
    ∃ bound, q.toValue.fits bound = true := by
  obtain ⟨bound, hfits⟩ := h.whole
  refine ⟨bound + 2, fitsFields_iff.2 fun f hf => ?_⟩
  rcases List.mem_cons.1 hf with rfl | hf
  · exact Value.fits_mono hfits 1
  · rw [List.mem_singleton.1 hf]
    exact fits_ofStrings _ _

/-- A written quarantined record is read as that one, or it is refused for its depth. -/
theorem parse?_render_eq {q : Quarantined} (h : q.record.Regular) : parse? q.toValue.render =
    if q.record.toValue.nests (maxDepth - 1) then some q else none := by
  obtain ⟨bound, hfits⟩ := exists_fits_toValue h
  have hnames : fieldNames = q.fields.names := rfl
  have hnests : nestsFields (maxDepth - 1) q.fields = q.record.toValue.nests (maxDepth - 1) := by
    have hrules : (ofStrings q.failedRules).nests (maxDepth - 1) = true :=
      (Value.fits_iff_nests (fits_ofStrings _ 0)).1 (fits_ofStrings _ _)
    simp only [fields, nestsFields, hrules, Bool.and_true]
  have hof : ofValue? (.object q.fields) = some q := by
    rw [ofValue?, hnames, parts?_object q.fields (hnames ▸ by decide)]
    simp only [fields, List.map_cons, List.map_nil, h.merged, Record.ofValue?_toValue,
      list?_ofStrings, Option.bind_eq_bind, Option.bind_some, Option.pure_def]
  exact (bind_readStructure?_render hfits hof).trans (by rw [← fields, hnests])

theorem ofBytes_render {qs : List Quarantined} (h : ∀ q ∈ qs, q.record.Storable) (path : Path) :
    Rows.ofBytes path (Rows.decoded parse?) (Rows.render (qs.map toValue)).toUTF8 = .ok qs :=
  Rows.ofBytes_render
    (fun q hq => (parse?_render_eq (h q hq).regular).trans (if_pos (h q hq).nests))
    (fun q hq => exists_fits_toValue (h q hq).regular)

/-- Where one record nests too deep, no row can be read. -/
theorem ofBytes_refused {qs : List Quarantined} (h : ∀ q ∈ qs, q.record.Regular) {q : Quarantined}
    (hq : q ∈ qs) (hdeep : q.record.toValue.nests (maxDepth - 1) = false) (path : Path) :
    ∃ e, Rows.ofBytes path (Rows.decoded parse?) (Rows.render (qs.map toValue)).toUTF8 =
      .error e :=
  Rows.ofBytes_refused (fun q hq => exists_fits_toValue (h q hq)) hq
    ((parse?_render_eq (h q hq)).trans (if_neg (Bool.eq_false_iff.1 hdeep)))

end Quarantined

theorem Outcome.ofValue?_toValue (o : Outcome) : ofValue? o.toValue = some o := by
  cases o with
  | applied rules =>
    show (list? string? (ofStrings rules)).map applied = _
    rw [list?_ofStrings]
    rfl
  | failed rule reason => rfl

theorem Outcome.fits_toValue (o : Outcome) (depth : Nat) :
    o.toValue.fits (depth + 2) = true := by
  cases o with
  | applied rules =>
    rw [toValue, Value.fits, fitsFields_iff]
    intro f hf
    rcases List.mem_cons.1 hf with rfl | hf
    · rfl
    · rw [List.mem_singleton.1 hf]
      exact fits_ofStrings rules depth
  | failed rule reason => rfl

namespace Processed

/-- The fields of a written processed record. -/
def fields (p : Processed) : Fields :=
  [("record", p.record.toValue), ("failed_rules", ofStrings p.failedRules),
    ("redaction", p.redaction.toValue)]

theorem exists_fits_toValue {p : Processed} (h : p.record.Regular) :
    ∃ bound, p.toValue.fits bound = true := by
  obtain ⟨bound, hfits⟩ := h.whole
  refine ⟨bound + 3, fitsFields_iff.2 fun f hf => ?_⟩
  rcases List.mem_cons.1 hf with rfl | hf
  · exact Value.fits_mono hfits 2
  rcases List.mem_cons.1 hf with rfl | hf
  · exact fits_ofStrings _ _
  · rw [List.mem_singleton.1 hf]
    exact p.redaction.fits_toValue _

/-- A written processed record is read as that one, or it is refused for its depth. -/
theorem parse?_render_eq {p : Processed} (h : p.record.Regular) : parse? p.toValue.render =
    if p.record.toValue.nests (maxDepth - 1) then some p else none := by
  obtain ⟨bound, hfits⟩ := exists_fits_toValue h
  have hnames : fieldNames = p.fields.names := rfl
  have hnests : nestsFields (maxDepth - 1) p.fields = p.record.toValue.nests (maxDepth - 1) := by
    have hrules : (ofStrings p.failedRules).nests (maxDepth - 1) = true :=
      (Value.fits_iff_nests (fits_ofStrings _ 0)).1 (fits_ofStrings _ _)
    have hredaction : p.redaction.toValue.nests (maxDepth - 1) = true :=
      (Value.fits_iff_nests (p.redaction.fits_toValue 0)).1 (p.redaction.fits_toValue _)
    simp only [fields, nestsFields, hrules, hredaction, Bool.and_true]
  have hof : ofValue? (.object p.fields) = some p := by
    rw [ofValue?, hnames, parts?_object p.fields (hnames ▸ by decide)]
    simp only [fields, List.map_cons, List.map_nil, h.merged, Record.ofValue?_toValue,
      list?_ofStrings, Outcome.ofValue?_toValue, Option.bind_eq_bind, Option.bind_some,
      Option.pure_def]
  exact (bind_readStructure?_render hfits hof).trans (by rw [← fields, hnests])

theorem ofBytes_render {ps : List Processed} (h : ∀ p ∈ ps, p.record.Storable) (path : Path) :
    Rows.ofBytes path (Rows.decoded parse?) (Rows.render (ps.map toValue)).toUTF8 = .ok ps :=
  Rows.ofBytes_render
    (fun p hp => (parse?_render_eq (h p hp).regular).trans (if_pos (h p hp).nests))
    (fun p hp => exists_fits_toValue (h p hp).regular)

end Processed
end Quarantine
