import Quarantine.Proofs.Json.Nesting
import Quarantine.Proofs.Metrics.Decoding

/-!
# Details in a text

The details of an entry are a value, or a text that writes one.  Which of the two makes no
difference: not for the events, and not for the failure if there are none.  The one text that is
not taken for its value is of a value that nests too deep to be read.

    (e with the text of v).events = (e with v).events
-/

namespace Quarantine

open Quarantine.Json

namespace Entry

variable {e : Entry} {v : Value}

/-- Apart from the value of its details an entry gives no more than its identifier and its time to
its events. -/
theorem events_congr {e e' : Entry} (hid : e.id = e'.id) (htime : e.timestamp = e'.timestamp)
    (hdetails : e.detailsValue = e'.detailsValue) : e.events = e'.events := by
  obtain ⟨id, time, type, details⟩ := e
  obtain ⟨id', time', type', details'⟩ := e'
  obtain rfl : id = id' := hid
  obtain rfl : time = time' := htime
  unfold events
  rw [hdetails]
  rfl

theorem detailsValue_text {text : String} :
    { e with details := .string text : Entry }.detailsValue =
      e.require .notJson (Json.parse? text) := rfl

theorem detailsValue_value (h : ∀ s, v ≠ .string s) :
    { e with details := v : Entry }.detailsValue = .ok v :=
  detailsValue_ok_iff.2 (.value h)

/-- A text that is read as a value stands for that value. -/
theorem events_of_read? {text : String} (hread : read? text = some v) (hmerged : v.merged = v)
    (hvalue : ∀ s, v ≠ .string s) : { e with details := .string text : Entry }.events =
      { e with details := v : Entry }.events := by
  have hparse : Json.parse? text = some v := by rw [Json.parse?, hread, Option.map_some, hmerged]
  refine events_congr rfl rfl ?_
  rw [detailsValue_text, hparse, detailsValue_value hvalue]
  rfl

/-- Details of whole numbers that nest within the limit are the same as their text, in one line
or indented. -/
theorem events_of_written (e : Entry) (hfits : v.fits maxDepth = true) (hmerged : v.merged = v)
    (hvalue : ∀ s, v ≠ .string s) :
    { e with details := .string v.render : Entry }.events = { e with details := v : Entry }.events ∧
    { e with details := .string v.renderIndented : Entry }.events =
      { e with details := v : Entry }.events :=
  ⟨events_of_read? (read?_render hfits) hmerged hvalue,
    events_of_read? (read?_renderIndented hfits) hmerged hvalue⟩

/-- Details of one expectation, for a rule whose name has to be escaped in a text. -/
def sampleDetails : Value := .object [(progressType, .object [("data_quality", .object
  [("expectations", .array [expectation "clean" "a \"b\"\\\n\x01é" ⟨3, 1⟩])])])]

theorem events_of_written_sample :
    sampleDetails.fits maxDepth = true ∧ sampleDetails.merged = sampleDetails ∧
      (Entry.mk "e" .epoch progressType (.string sampleDetails.render)).events =
        .ok [⟨.epoch, "clean", "a \"b\"\\\n\x01é", 3, 1⟩] := by
  have hfits : sampleDetails.fits maxDepth = true := rfl
  have hmerged : sampleDetails.merged = sampleDetails := rfl
  have hvalue : ∀ s, sampleDetails ≠ .string s := fun s => Value.noConfusion
  refine ⟨hfits, hmerged, ?_⟩
  rw [(events_of_written ⟨"e", .epoch, progressType, .null⟩ hfits hmerged hvalue).1]
  rfl

/-- A text that is not read is taken for no value at all. -/
theorem events_of_read?_none {text : String} (hread : read? text = none) :
    { e with details := .string text : Entry }.events = .error (e.malformed .notJson) := by
  have hparse : Json.parse? text = none := by rw [Json.parse?, hread, Option.map_none]
  unfold events
  rw [detailsValue_text, hparse]
  rfl

/-- That is so of the text of a value that nests deeper than the limit, in one line or indented. -/
theorem events_of_deep {bound : Nat} (hfits : v.fits bound = true)
    (hdeep : v.nests maxDepth = false) :
    { e with details := .string v.render : Entry }.events = .error (e.malformed .notJson) ∧
    { e with details := .string v.renderIndented : Entry }.events =
      .error (e.malformed .notJson) := by
  have hnone : (if v.nests maxDepth then some v else none) = none := by rw [hdeep]; rfl
  exact ⟨events_of_read?_none ((read?_render_eq hfits).trans hnone),
    events_of_read?_none ((read?_renderIndented_eq hfits).trans hnone)⟩

/-! ## Logs -/

/-- The entry with its details as a text. -/
def written (e : Entry) : Entry := { e with details := .string e.details.render }

end Entry

/-- A log is unpacked to the same events, and the same entries are left out of it with the same
failures, when the details of all its entries are written as texts. -/
theorem unpacked_written {log : List Entry} (h : ∀ e ∈ log, e.details.fits maxDepth = true ∧
    e.details.merged = e.details ∧ ∀ s, e.details ≠ .string s) :
    unpacked (log.map Entry.written) = unpacked log := by
  have hprogress : Entry.isProgress ∘ Entry.written = Entry.isProgress := rfl
  unfold unpacked
  rw [List.filter_map, hprogress, List.map_map]
  refine List.map_congr_left fun e he => ?_
  obtain ⟨hfits, hmerged, hvalue⟩ := h e (List.mem_of_mem_filter he)
  exact Entry.events_of_read? (read?_render hfits) hmerged hvalue

end Quarantine
