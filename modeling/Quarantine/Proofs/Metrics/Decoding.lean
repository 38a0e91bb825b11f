import Quarantine.Proofs.Metrics.RoundTrip
import Quarantine.Proofs.Fallible
import Mathlib.Data.List.Forall2

/-!
# What an entry is decoded to

An entry is decoded by asking its details for fields, one below the other.  What it says is stated
here without that order: it holds a list of expectations, and each of them says an event.  If one
of them says none, the entry is refused as a whole.

    e.events = .ok es              ↔  e expects vs, and vs say es one by one
    e.events = .error _            ↔  e expects nothing, or something that says no event
    (progress … rules ts).events   =  an event for each place that rules and ts both have
    aggregate log                  =  the events of the good entries in the log, in order
-/

namespace Quarantine

open Quarantine.Json

/-- A list of results, each of which is there. -/
theorem mapM_ok_iff {α β ε : Type} {f : α → Except ε β} {xs : List α} {ys : List β} :
    xs.mapM f = .ok ys ↔ List.Forall₂ (fun x y => f x = .ok y) xs ys := by
  induction xs generalizing ys with
  | nil =>
    rw [List.mapM_nil, List.forall₂_nil_left_iff]
    exact ⟨fun h => (Except.ok.inj h).symm, fun h => congrArg Except.ok h.symm⟩
  | cons x xs ih =>
    rw [List.mapM_cons, List.forall₂_cons_left_iff]
    constructor
    · intro h
      obtain ⟨y, hy, h⟩ := exists_of_bind_ok h
      obtain ⟨ys', hys, h⟩ := exists_of_bind_ok h
      exact ⟨y, ys', hy, ih.1 hys, (Except.ok.inj h).symm⟩
    · rintro ⟨y, ys', hy, hys, rfl⟩
      rw [hy, ih.2 hys]
      rfl

/-- One failure among the results is a failure of all. -/
theorem exists_mapM_error_iff {α β ε : Type} {f : α → Except ε β} {xs : List α} :
    (∃ e, xs.mapM f = .error e) ↔ ∃ x ∈ xs, ∃ e, f x = .error e := by
  induction xs with
  | nil =>
    constructor
    · rintro ⟨e, h⟩
      cases h
    · rintro ⟨x, hx, -⟩
      exact absurd hx List.not_mem_nil
  | cons x xs ih =>
    rw [List.mapM_cons, List.exists_mem_cons_iff, ← ih]
    cases f x with
    | error e => exact ⟨fun _ => .inl ⟨e, rfl⟩, fun _ => ⟨e, rfl⟩⟩
    | ok y =>
      cases xs.mapM f with
      | error e => exact ⟨fun _ => .inr ⟨e, rfl⟩, fun _ => ⟨e, rfl⟩⟩
      | ok ys =>
        constructor
        · rintro ⟨e, h⟩
          cases h
        · rintro (⟨e, h⟩ | ⟨e, h⟩) <;> cases h

/-! ## Expectations -/

theorem bind_string?_eq_some_iff {v : Option Value} {s : String} :
    v.bind string? = some s ↔ v = some (.string s) := by
  constructor
  · intro h
    obtain ⟨w, rfl, hw⟩ := Option.bind_eq_some_iff.1 h
    cases w with
    | string t => rw [Option.some.inj hw]
    | _ => cases hw
  · rintro rfl
    rfl

theorem bind_natural?_eq_some_iff {v : Option Value} {n : Nat} :
    v.bind natural? = some n ↔ ∃ m : Number, v = some (.number m) ∧ m.toNat? = some n := by
  constructor
  · intro h
    obtain ⟨w, rfl, hw⟩ := Option.bind_eq_some_iff.1 h
    cases w with
    | number m => exact ⟨m, rfl, hw⟩
    | _ => cases hw
  · rintro ⟨m, rfl, hm⟩
    exact hm

/-- What an expectation says: two texts and two counts. -/
structure Event.SaidBy (event : Event) (v : Value) : Prop where
  step : v.field? "dataset" = some (.string event.step)
  rule : v.field? "name" = some (.string event.rule)
  passed : ∃ n : Number, v.field? "passed_records" = some (.number n) ∧
    n.toNat? = some event.passed
  failed : ∃ n : Number, v.field? "failed_records" = some (.number n) ∧
    n.toNat? = some event.failed

namespace Entry

variable {e : Entry} {v : Value} {event : Event} {es : List Event}

theorem require_ok_iff {α : Type} {fault : EntryFault} {o : Option α} {a : α} :
    e.require fault o = .ok a ↔ o = some a := by
  cases o with
  | none => exact ⟨fun h => (by cases h), fun h => (by cases h)⟩
  | some b => exact ⟨fun h => congrArg some (Except.ok.inj h), fun h => congrArg Except.ok
      (Option.some.inj h)⟩

/-- An expectation is decoded to what it says, at the time of the entry. -/
theorem event_ok_iff : e.event v = .ok event ↔ event.timestamp = e.timestamp ∧ event.SaidBy v := by
  unfold Entry.event
  constructor
  · intro h
    obtain ⟨step, hstep, h⟩ := exists_of_bind_ok h
    obtain ⟨rule, hrule, h⟩ := exists_of_bind_ok h
    obtain ⟨passed, hpassed, h⟩ := exists_of_bind_ok h
    obtain ⟨failed, hfailed, h⟩ := exists_of_bind_ok h
    obtain rfl := Except.ok.inj h
    refine ⟨rfl, ?_, ?_, ?_, ?_⟩
    · exact bind_string?_eq_some_iff.1 (require_ok_iff.1 hstep)
    · exact bind_string?_eq_some_iff.1 (require_ok_iff.1 hrule)
    · exact bind_natural?_eq_some_iff.1 (require_ok_iff.1 hpassed)
    · exact bind_natural?_eq_some_iff.1 (require_ok_iff.1 hfailed)
  · rintro ⟨htime, hstep, hrule, hpassed, hfailed⟩
    dsimp only
    rw [require_ok_iff.2 (bind_string?_eq_some_iff.2 hstep),
      require_ok_iff.2 (bind_string?_eq_some_iff.2 hrule),
      require_ok_iff.2 (bind_natural?_eq_some_iff.2 hpassed),
      require_ok_iff.2 (bind_natural?_eq_some_iff.2 hfailed), ← htime]
    rfl

/-- An expectation that says no event is refused. -/
theorem exists_event_error_iff :
    (∃ failure, e.event v = .error failure) ↔ ∀ event : Event, ¬ event.SaidBy v := by
  constructor
  · rintro ⟨failure, h⟩ event hsaid
    have hok : e.event v = .ok { event with timestamp := e.timestamp } :=
      event_ok_iff.2 ⟨rfl, hsaid.1, hsaid.2, hsaid.3, hsaid.4⟩
    rw [hok] at h
    cases h
  · intro h
    cases hevent : e.event v with
    | error failure => exact ⟨failure, rfl⟩
    | ok event => exact absurd (event_ok_iff.1 hevent).2 (h event)

/-! ## Entries -/

/-- The value of the details: what a text writes, or the value that is there. -/
inductive Details (e : Entry) : Value → Prop
  | text {s : String} {v : Value} (h : e.details = .string s) (hread : Json.parse? s = some v) :
      Details e v
  | value (h : ∀ s, e.details ≠ .string s) : Details e e.details

theorem detailsValue_ok_iff : e.detailsValue = .ok v ↔ e.Details v := by
  unfold detailsValue
  constructor
  · intro h
    split at h
    · next s hs => exact .text hs (require_ok_iff.1 h)
    · next hvalue =>
      obtain rfl := Except.ok.inj h
      exact .value hvalue
  · intro h
    cases h with
    | text h hread =>
      rw [h]
      exact require_ok_iff.2 hread
    | value h =>
      split
      · next s hs => exact absurd hs (h s)
      · rfl

/-- The expectations that an entry holds. -/
inductive Expects (e : Entry) (vs : List Value) : Prop
  | intro {details progress quality : Value} (hdetails : e.Details details)
      (hprogress : details.field? progressType = some progress)
      (hquality : progress.field? "data_quality" = some quality)
      (hlist : quality.field? "expectations" = some (.array vs))

theorem events_of_expects {vs : List Value} (h : e.Expects vs) : e.events = vs.mapM e.event := by
  obtain ⟨hdetails, hprogress, hquality, hlist⟩ := h
  unfold events
  rw [detailsValue_ok_iff.2 hdetails]
  dsimp only [bind, Except.bind]
  rw [hprogress]
  dsimp only [require]
  rw [hquality]
  dsimp only
  rw [hlist]
  rfl

theorem exists_expects_of_ok (h : e.events = .ok es) : ∃ vs, e.Expects vs := by
  unfold events at h
  obtain ⟨details, hdetails, h⟩ := exists_of_bind_ok h
  obtain ⟨progress, hprogress, h⟩ := exists_of_bind_ok h
  obtain ⟨quality, hquality, h⟩ := exists_of_bind_ok h
  obtain ⟨vs, hvs, -⟩ := exists_of_bind_ok h
  obtain ⟨v, hlist, hv⟩ := Option.bind_eq_some_iff.1 (require_ok_iff.1 hvs)
  cases v with
  | array ws =>
    obtain rfl := Option.some.inj hv
    exact ⟨ws, detailsValue_ok_iff.1 hdetails, require_ok_iff.1 hprogress,
      require_ok_iff.1 hquality, hlist⟩
  | _ => cases hv

/-- An entry is decoded to the events that its expectations say. -/
theorem events_ok_iff : e.events = .ok es ↔ ∃ vs, e.Expects vs ∧
    List.Forall₂ (fun v event => event.timestamp = e.timestamp ∧ event.SaidBy v) vs es := by
  simp only [← event_ok_iff, ← mapM_ok_iff]
  constructor
  · intro h
    obtain ⟨vs, hvs⟩ := exists_expects_of_ok h
    exact ⟨vs, hvs, events_of_expects hvs ▸ h⟩
  · rintro ⟨vs, hvs, h⟩
    rw [events_of_expects hvs, h]

/-- An entry is refused as a whole as soon as one of its expectations says no event. -/
theorem exists_events_error_iff : (∃ failure, e.events = .error failure) ↔
    ∀ vs, e.Expects vs → ∃ v ∈ vs, ∀ event : Event, ¬ event.SaidBy v := by
  simp only [← exists_event_error_iff (e := e), ← exists_mapM_error_iff]
  constructor
  · rintro ⟨failure, h⟩ vs hvs
    exact ⟨failure, events_of_expects hvs ▸ h⟩
  · intro h
    cases hes : e.events with
    | error failure => exact ⟨failure, rfl⟩
    | ok es =>
      obtain ⟨vs, hvs⟩ := exists_expects_of_ok hes
      obtain ⟨failure, hfailure⟩ := h vs hvs
      rw [← events_of_expects hvs, hes] at hfailure
      cases hfailure

end Entry

/-! ## Logs -/

/-- The events of a batch: one for each place that the rules and the tallies both have. -/
structure BatchEvents (time : Instant) (dataset : String) (rules : RuleSet) (tallies : List Tally)
    (es : List Event) : Prop where
  length_eq : es.length = min rules.size tallies.length
  event : ∀ (i : Nat) (rule : Rule) (t : Tally), rules.rules[i]? = some rule →
    tallies[i]? = some t → es[i]? = some ⟨time, dataset, rule.name, t.passed, t.failed⟩

/-- That counts are numbers of 64 bits. -/
def Tally.IsKept (t : Tally) : Prop :=
  t.passed < 0x10000000000000000 ∧ t.failed < 0x10000000000000000

section

variable {time : Instant} {dataset : String} {rules : RuleSet} {tallies : List Tally}

theorem batchEvents_progressEvents (time : Instant) (dataset : String) (rules : RuleSet)
    (h : ∀ t ∈ tallies, t.IsKept) :
    BatchEvents time dataset rules tallies (progressEvents time dataset rules tallies) := by
  unfold progressEvents RuleSet.names
  constructor
  · rw [List.length_zipWith, List.length_map]
    rfl
  · intro i rule t hrule ht
    obtain ⟨hpassed, hfailed⟩ := h t (List.mem_of_getElem? ht)
    rw [List.getElem?_zipWith, List.getElem?_map, hrule, ht]
    simp only [Option.map_some, keptCount_of_lt hpassed, keptCount_of_lt hfailed]

theorem BatchEvents.unique {es es' : List Event} (h : BatchEvents time dataset rules tallies es)
    (h' : BatchEvents time dataset rules tallies es') : es = es' := by
  apply List.ext_getElem?
  intro i
  by_cases hi : i < min rules.size tallies.length
  · have hrule : i < rules.rules.length := Nat.lt_of_lt_of_le hi (Nat.min_le_left _ _)
    have ht : i < tallies.length := Nat.lt_of_lt_of_le hi (Nat.min_le_right _ _)
    rw [h.event i _ _ (List.getElem?_eq_getElem hrule) (List.getElem?_eq_getElem ht),
      h'.event i _ _ (List.getElem?_eq_getElem hrule) (List.getElem?_eq_getElem ht)]
  · have hle := Nat.le_of_not_lt hi
    rw [List.getElem?_eq_none (h.length_eq ▸ hle), List.getElem?_eq_none (h'.length_eq ▸ hle)]

end

/-- A log of the entries of batches, with the events of these, among other entries: of another
type, or refused. -/
inductive Mixed : List Entry → List Event → Prop
  | nil : Mixed [] []
  | batch {log : List Entry} {es events : List Event} (id : String) (time : Instant)
      (dataset : String) (rules : RuleSet) {tallies : List Tally} (hkept : ∀ t ∈ tallies, t.IsKept)
      (hes : BatchEvents time dataset rules tallies es) (hrest : Mixed log events) :
      Mixed (Entry.progress id time dataset rules tallies :: log) (es ++ events)
  | otherType {log : List Entry} {events : List Event} {e : Entry} (h : e.type ≠ progressType)
      (hrest : Mixed log events) : Mixed (e :: log) events
  | refused {log : List Entry} {events : List Event} {e : Entry} {failure : Failure}
      (h : e.events = .error failure) (hrest : Mixed log events) : Mixed (e :: log) events

section

variable {e : Entry} {log : List Entry} {events : List Event}

theorem aggregate_singleton_of_ne (h : e.type ≠ progressType) : aggregate [e] = [] := by
  have hother : e.isProgress = false := beq_eq_false_iff_ne.2 h
  rw [aggregate, unpacked, List.filter_cons_of_neg (by rw [hother]; decide)]
  rfl

theorem aggregate_singleton_of_error {failure : Failure} (h : e.events = .error failure) :
    aggregate [e] = [] := by
  unfold aggregate unpacked
  by_cases hprogress : e.isProgress = true
  · rw [List.filter_cons_of_pos hprogress, List.filter_nil, List.map_singleton, h]
    rfl
  · rw [List.filter_cons_of_neg hprogress]
    rfl

/-- Other entries add nothing to the events of a log, and take nothing from them. -/
theorem Mixed.aggregate_eq (h : Mixed log events) : aggregate log = events := by
  induction h with
  | nil => rfl
  | batch id time dataset rules hkept hes _ ih =>
    have hbatch := batchEvents_progressEvents time dataset rules hkept
    rw [← List.singleton_append, aggregate_append, aggregate_progress, ih, hbatch.unique hes]
  | otherType h _ ih =>
    rw [← List.singleton_append, aggregate_append, aggregate_singleton_of_ne h, ih, List.nil_append]
  | refused h _ ih =>
    rw [← List.singleton_append, aggregate_append, aggregate_singleton_of_error h, ih,
      List.nil_append]

end

/-- The entry of a batch is decoded to what was written into it, a log to the events of its good
entries in their order, and an entry of which a part is malformed to nothing. -/
theorem decoded_among_others :
    (∀ id time dataset rules tallies, (∀ t ∈ tallies, t.IsKept) →
      ∃ es, (Entry.progress id time dataset rules tallies).events = .ok es ∧
        BatchEvents time dataset rules tallies es) ∧
    (∀ log events, Mixed log events → aggregate log = events) ∧
    ∀ e : Entry, (∃ failure, e.events = .error failure) ↔
      ∀ vs, e.Expects vs → ∃ v ∈ vs, ∀ event : Event, ¬ event.SaidBy v := by
  refine ⟨?_, ?_, ?_⟩
  · intro id time dataset rules tallies hkept
    exact ⟨_, Entry.events_progress .., batchEvents_progressEvents time dataset rules hkept⟩
  · intro log events h
    exact h.aggregate_eq
  · intro e
    exact Entry.exists_events_error_iff

/-! ## A case -/

namespace Mixed

/-- One rule for one column. -/
def sampleRules : RuleSet :=
  ⟨[Rule.expand ⟨"\x7b\x7d may contain ssn", "", ""⟩ "ssn"], ["ssn"], List.pairwise_singleton _ _⟩

/-- An expectation that says an event, and one that has no counts. -/
def sampleRefused : Entry where
  id := "b"
  timestamp := .epoch
  type := progressType
  details := .object [(progressType, .object [("data_quality", .object [("expectations", .array
    [Entry.expectation "clean" "ssn may contain ssn" ⟨1, 0⟩,
      .object [("name", .string "ssn may contain ssn"), ("dataset", .string "clean")]])])])]

/-- The entry of a batch after an entry of another type, and before one that is refused. -/
def sampleLog : List Entry :=
  [⟨"", .epoch, "user_action", .null⟩,
    Entry.progress "a" .epoch "clean" sampleRules [⟨41, 1⟩, ⟨7, 0⟩], sampleRefused]

end Mixed

/-- Of the three entries only the second one counts, and its second tally has no rule. -/
theorem decoded_among_others_sample :
    Mixed Mixed.sampleLog [⟨.epoch, "clean", "ssn may contain ssn", 41, 1⟩] ∧
      aggregate Mixed.sampleLog = [⟨.epoch, "clean", "ssn may contain ssn", 41, 1⟩] ∧
      ∃ vs, Mixed.sampleRefused.Expects vs ∧ ∃ v ∈ vs, ∀ event : Event, ¬ event.SaidBy v := by
  have hkept : ∀ t ∈ [(⟨41, 1⟩ : Tally), ⟨7, 0⟩], t.IsKept := by
    unfold Tally.IsKept
    decide
  obtain ⟨es, hes, hbatch⟩ :=
    decoded_among_others.1 "a" .epoch "clean" Mixed.sampleRules _ hkept
  have hevents : es = [⟨.epoch, "clean", "ssn may contain ssn", 41, 1⟩] := by
    rw [Entry.events_progress] at hes
    exact (Except.ok.inj hes).symm.trans (by decide +kernel)
  have hrefused : Mixed.sampleRefused.events =
      .error (.aggregation "b" Instant.epoch.display (.noCount "passed_records")) := by rfl
  have hmixed : Mixed Mixed.sampleLog es := by
    have hlast : Mixed [Mixed.sampleRefused] [] := .refused hrefused .nil
    have hbatched := Mixed.batch "a" .epoch "clean" Mixed.sampleRules hkept hbatch hlast
    rw [List.append_nil] at hbatched
    exact .otherType (by decide) hbatched
  have hexpects : Mixed.sampleRefused.Expects _ :=
    ⟨.value (fun s => Value.noConfusion), rfl, rfl, rfl⟩
  rw [← hevents]
  exact ⟨hmixed, decoded_among_others.2.1 _ _ hmixed, _, hexpects,
    (decoded_among_others.2.2 Mixed.sampleRefused).1 ⟨_, hrefused⟩ _ hexpects⟩

end Quarantine
