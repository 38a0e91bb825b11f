import Quarantine.Proofs.Metrics.Windows

/-!
# Windows are aligned

A window of some seconds starts at the last multiple of them that is not after its events.  So two
events of a rule are counted in one row if they have the same multiple; fractions do not count, and
instants before 1970 are no exception.

    start of t       = ⌊t / w⌋ · w,  a multiple of w with start ≤ t < start + w
    i, j in one row  ↔ ⌊tᵢ / w⌋ = ⌊tⱼ / w⌋

In which row an event is counted is told by what a record more in the event changes.  Where the
multiple comes before the first second of the calendar, an instant is a window of its own.
-/

namespace Quarantine

/-! ## Starts -/

/-- The number of the window of an instant. -/
def windowNumber (seconds : Int) (t : Instant) : Int := Int.fdiv t.seconds seconds

/-- That the calendar has the start of the window of an instant. -/
def HasWindow (seconds : Int) (t : Instant) : Prop :=
  leastSecond ≤ windowNumber seconds t * seconds

instance (seconds : Int) (t : Instant) : Decidable (HasWindow seconds t) :=
  inferInstanceAs (Decidable (leastSecond ≤ windowNumber seconds t * seconds))

section

variable {seconds : Int} {t t' : Instant}

theorem windowNumber_eq (hpos : 0 < seconds) : windowNumber seconds t = t.seconds / seconds :=
  Int.fdiv_eq_ediv_of_nonneg _ (Int.le_of_lt hpos)

/-- An instant is in its window. -/
theorem windowNumber_bounds (hpos : 0 < seconds) (t : Instant) :
    windowNumber seconds t * seconds ≤ t.seconds ∧
      t.seconds < windowNumber seconds t * seconds + seconds := by
  rw [windowNumber_eq hpos]
  have hle := Int.ediv_mul_le t.seconds (Int.ne_of_gt hpos)
  have hlt := Int.lt_ediv_add_one_mul_self t.seconds hpos
  rw [Int.add_mul, Int.one_mul] at hlt
  exact ⟨hle, hlt⟩

theorem windowStart_eq (hpos : 0 < seconds) : windowStart seconds t =
    (Instant.of? (windowNumber seconds t * seconds) 0).getD t := by
  have hstart : t.seconds - t.seconds % seconds = t.seconds / seconds * seconds := by
    have h := Int.mul_ediv_add_emod t.seconds seconds
    rw [Int.mul_comm] at h
    omega
  rw [windowStart, if_pos hpos, hstart, windowNumber_eq hpos]

theorem windowStart_of_hasWindow (hpos : 0 < seconds) (h : HasWindow seconds t) :
    (windowStart seconds t).seconds = windowNumber seconds t * seconds ∧
      (windowStart seconds t).nanos = 0 := by
  have hrange := t.inRange
  have hbounds := windowNumber_bounds hpos t
  rw [windowStart_eq hpos, Instant.of?, dif_pos]
  · exact ⟨rfl, rfl⟩
  · exact ⟨⟨h, by omega⟩, by decide, nofun⟩

theorem windowStart_of_not_hasWindow (hpos : 0 < seconds) (h : ¬ HasWindow seconds t) :
    windowStart seconds t = t := by
  rw [windowStart_eq hpos, Instant.of?, dif_neg fun hc => h hc.1.1]
  rfl

/-- An instant that is a start has a window. -/
theorem hasWindow_of_seconds (hpos : 0 < seconds) {n : Int} (h : t.seconds = n * seconds) :
    HasWindow seconds t := by
  have hnumber : windowNumber seconds t = n := by
    rw [windowNumber_eq hpos, h, Int.mul_ediv_cancel n (Int.ne_of_gt hpos)]
  rw [HasWindow, hnumber, ← h]
  exact t.inRange.1

/-- Windows are told by their numbers, if the calendar has one of them. -/
theorem windowStart_eq_iff (hpos : 0 < seconds) (h : HasWindow seconds t) :
    windowStart seconds t = windowStart seconds t' ↔
      windowNumber seconds t = windowNumber seconds t' := by
  obtain ⟨hseconds, hnanos⟩ := windowStart_of_hasWindow hpos h
  constructor
  · intro hstart
    have h' : HasWindow seconds t' := by
      by_contra h'
      rw [windowStart_of_not_hasWindow hpos h'] at hstart
      exact h' (hasWindow_of_seconds hpos (hstart ▸ hseconds))
    rw [hstart, (windowStart_of_hasWindow hpos h').1] at hseconds
    exact (Int.eq_of_mul_eq_mul_right (Int.ne_of_gt hpos) hseconds).symm
  · intro hnumber
    have h' : HasWindow seconds t' := by
      rw [HasWindow, ← hnumber]
      exact h
    obtain ⟨hseconds', hnanos'⟩ := windowStart_of_hasWindow hpos h'
    exact Instant.eq_of_counts (by rw [hseconds, hseconds', hnumber]) (hnanos.trans hnanos'.symm)

end

/-! ## Rows and their events -/

/-- An event with some records more. -/
def Event.more (passed failed : Nat) (e : Event) : Event :=
  { e with passed := e.passed + passed, failed := e.failed + failed }

/-- A row with some records more. -/
def WindowTotals.more (passed failed : Nat) (t : WindowTotals) : WindowTotals :=
  { t with passed := t.passed + passed, failed := t.failed + failed }

/-- That an event is summed into a row: records more in the event are records more in the row, and
all else stays. -/
def SummedInto (seconds : Int) (events : List Event) (i k : Nat) : Prop :=
  k < (windowTotals seconds events).length ∧ ∀ passed failed,
    windowTotals seconds (events.modify i (Event.more passed failed)) =
      (windowTotals seconds events).modify k (WindowTotals.more passed failed)

/-- The window of a row and its rule. -/
def WindowTotals.key (t : WindowTotals) : Instant × String := (t.start, t.rule)

/-- The window of an event and its rule. -/
def Event.key (seconds : Int) (e : Event) : Instant × String :=
  (windowStart seconds e.timestamp, e.rule)

/-! ### Windows without counts -/

namespace Window

/-- The starts of windows and the rules in them. -/
def outline (ws : List Window) : List (Instant × List String) :=
  ws.map fun w => (w.start, w.rows.map Totals.rule)

variable {start : Instant} {e e' : Event} {w : Window} {ws ws' : List Window}

theorem outline_cons : outline (w :: ws) = (w.start, w.rows.map Totals.rule) :: outline ws := rfl

/-- The counts do not matter for where an event is added. -/
theorem outline_add_congr (hrule : e.rule = e'.rule) (h : outline ws = outline ws') :
    outline (add start e ws) = outline (add start e' ws') := by
  have hadd {rows rows' : List Totals} (h : rows.map Totals.rule = rows'.map Totals.rule) :
      (Totals.add rows e).map Totals.rule = (Totals.add rows' e').map Totals.rule := by
    rw [Totals.map_rule_add, Totals.map_rule_add, hrule, h]
  induction ws generalizing ws' with
  | nil =>
    obtain rfl := List.map_eq_nil_iff.1 h.symm
    rw [add, add, outline_cons, outline_cons, hadd rfl]
  | cons w rest ih =>
    obtain ⟨w', rest', rfl, hw, hrest⟩ := List.map_eq_cons_iff.1 h.symm
    obtain ⟨hstart, hrules⟩ := Prod.mk.inj hw
    unfold add
    rw [hstart]
    split
    · rw [outline_cons, outline_cons, hadd hrules.symm]
      exact congrArg _ hrest.symm
    · split
      · show (start, _) :: outline (w :: rest) = (start, _) :: outline (w' :: rest')
        rw [h, hadd rfl]
      · rw [outline_cons, outline_cons, ih hrest.symm, hstart, hrules]

/-- The rows of windows have the starts and the rules of the windows. -/
theorem map_key_totals (ws : List Window) : (ws.flatMap totals).map WindowTotals.key =
    (outline ws).flatMap fun w => w.2.map fun rule => (w.1, rule) := by
  rw [List.map_flatMap, outline, List.flatMap_map]
  refine congrArg (List.flatMap · ws) (funext fun w => ?_)
  rw [totals, List.map_map, List.map_map]
  rfl

end Window

/-! ### Keys -/

section

variable {seconds : Int} {events xs ys : List Event} {e : Event} {t : WindowTotals}
  {key : Instant × String} {i k passed failed : Nat}

/-- The keys of the rows, in their order. -/
def rowKeys (seconds : Int) (events : List Event) : List (Instant × String) :=
  (windowTotals seconds events).map WindowTotals.key

theorem outline_windows_congr (h : xs.map (Event.key seconds) = ys.map (Event.key seconds)) :
    Window.outline (windows seconds xs) = Window.outline (windows seconds ys) := by
  induction xs using List.reverseRecOn generalizing ys with
  | nil =>
    obtain rfl := List.map_eq_nil_iff.1 h.symm
    rfl
  | append_singleton xs e ih =>
    rw [List.map_append] at h
    obtain ⟨ys, last, rfl, hys, hlast⟩ := List.map_eq_append_iff.1 h.symm
    obtain ⟨e', rfl, he⟩ := List.map_eq_singleton_iff.1 hlast
    obtain ⟨hstart, hrule⟩ := Prod.mk.inj he
    rw [windows_concat, windows_concat, hstart]
    exact Window.outline_add_congr hrule.symm (ih hys.symm)

/-- The keys of the rows are told by the keys of the events. -/
theorem rowKeys_congr (h : xs.map (Event.key seconds) = ys.map (Event.key seconds)) :
    rowKeys seconds xs = rowKeys seconds ys := by
  have hkeys (events : List Event) : rowKeys seconds events =
      (Window.outline (windows seconds events)).flatMap fun w => w.2.map fun rule => (w.1, rule) :=
    Window.map_key_totals (windows seconds events)
  rw [hkeys, hkeys, outline_windows_congr h]

/-- The row for a key. -/
def rowFor (seconds : Int) (events : List Event) (key : Instant × String) : WindowTotals :=
  let t := Totals.sum key.2 ((eventsAt seconds key.1 events).map Event.row)
  ⟨key.1, key.2, t.passed, t.failed⟩

theorem rowFor_key (h : t ∈ windowTotals seconds events) : rowFor seconds events t.key = t := by
  have hmem : t ∈ (windowTotals seconds events).filter (·.start = t.start) :=
    List.mem_filter.2 ⟨h, decide_eq_true rfl⟩
  have hrow : t.row ∈ totals (eventsAt seconds t.start events) := by
    rw [← map_row_windowTotals_at]
    exact List.mem_map_of_mem hmem
  have hsum : Totals.sum t.rule ((eventsAt seconds t.start events).map Event.row) = t.row :=
    (mem_totals.1 hrow).2
  rw [rowFor]
  dsimp only [WindowTotals.key]
  rw [hsum]
  rfl

theorem map_rowFor_rowKeys (seconds : Int) (events : List Event) :
    (rowKeys seconds events).map (rowFor seconds events) = windowTotals seconds events := by
  rw [rowKeys, List.map_map]
  exact (List.map_congr_left fun t ht => rowFor_key ht).trans (List.map_id _)

/-- The key of an event has a row. -/
theorem key_mem_rowKeys (h : e ∈ events) : e.key seconds ∈ rowKeys seconds events := by
  have hevent : e ∈ eventsAt seconds (windowStart seconds e.timestamp) events :=
    List.mem_filter.2 ⟨h, decide_eq_true rfl⟩
  have hrule : e.rule ∈ (totals (eventsAt seconds (windowStart seconds e.timestamp) events)).map
      Totals.rule := by
    rw [map_rule_totals]
    exact List.mem_eraseDups.2 (List.mem_map_of_mem hevent)
  rw [← map_row_windowTotals_at, List.map_map] at hrule
  obtain ⟨t, ht, hrule⟩ := List.mem_map.1 hrule
  obtain ⟨ht, hstart⟩ := List.mem_filter.1 ht
  exact List.mem_map.2 ⟨t, ht, Prod.ext (of_decide_eq_true hstart) hrule⟩

/-! ### Records more -/

theorem key_more : (e.more passed failed).key seconds = e.key seconds := rfl

/-- An event has a part in the row of its key. -/
theorem sum_eventsAt_split (start : Instant) (rule : String) (before after : List Event) :
    Totals.sum rule ((eventsAt seconds start (before ++ e :: after)).map Event.row) =
      (Totals.sum rule ((eventsAt seconds start before).map Event.row)).plus
        ((if (start, rule) = e.key seconds then e.row else ⟨rule, 0, 0⟩).plus
          (Totals.sum rule ((eventsAt seconds start after).map Event.row))) := by
  have happend : eventsAt seconds start (before ++ e :: after) =
      eventsAt seconds start before ++ eventsAt seconds start (e :: after) := List.filter_append ..
  rw [happend, List.map_append, Totals.sum_append]
  congr 1
  by_cases hstart : windowStart seconds e.timestamp = start
  · have hcons : eventsAt seconds start (e :: after) = e :: eventsAt seconds start after :=
      List.filter_cons_of_pos (decide_eq_true hstart)
    rw [hcons, List.map_cons, Totals.sum]
    by_cases hrule : e.row.rule = rule
    · rw [if_pos hrule, if_pos (Prod.ext hstart.symm hrule.symm)]
    · rw [if_neg hrule, if_neg fun h => hrule (congrArg Prod.snd h).symm,
        Totals.zero_plus Totals.rule_sum]
  · have hskip : eventsAt seconds start (e :: after) = eventsAt seconds start after :=
      List.filter_cons_of_neg (by rw [decide_eq_true_eq]; exact hstart)
    rw [hskip, if_neg fun h => hstart (congrArg Prod.fst h).symm,
      Totals.zero_plus Totals.rule_sum]

/-- Records more in an event are records more in the row of its key. -/
theorem rowFor_more (before after : List Event) (key : Instant × String) :
    rowFor seconds (before ++ e.more passed failed :: after) key =
      if key = e.key seconds then
        (rowFor seconds (before ++ e :: after) key).more passed failed
      else rowFor seconds (before ++ e :: after) key := by
  rw [rowFor, rowFor, sum_eventsAt_split, sum_eventsAt_split, key_more]
  split
  · simp only [Totals.plus, Event.row, Event.more, WindowTotals.more, WindowTotals.mk.injEq,
      true_and]
    omega
  · rfl

theorem rowKeys_more (before after : List Event) :
    rowKeys seconds (before ++ e.more passed failed :: after) =
      rowKeys seconds (before ++ e :: after) := by
  refine rowKeys_congr ?_
  rw [List.map_append, List.map_append, List.map_cons, List.map_cons, key_more]

theorem nodup_rowKeys (seconds : Int) (events : List Event) : (rowKeys seconds events).Nodup :=
  nodup_windowTotals seconds events

/-- An event is summed into the row of its key. -/
theorem summedInto_of_key (he : events[i]? = some e)
    (hk : (rowKeys seconds events)[k]? = some (e.key seconds)) : SummedInto seconds events i k := by
  have hlength : (rowKeys seconds events).length = (windowTotals seconds events).length :=
    List.length_map _
  have hlt : k < (rowKeys seconds events).length := (List.getElem?_eq_some_iff.1 hk).1
  refine ⟨hlength ▸ hlt, fun passed failed => ?_⟩
  obtain ⟨before, e', after, rfl, rfl, hmore⟩ := List.exists_of_modify
    (Event.more passed failed) (List.getElem?_eq_some_iff.1 he).1
  rw [List.getElem?_append_right (Nat.le_refl _), Nat.sub_self] at he
  obtain rfl := Option.some.inj he
  rw [hmore, ← map_rowFor_rowKeys seconds (before ++ e'.more passed failed :: after), rowKeys_more,
    ← map_rowFor_rowKeys seconds (before ++ e' :: after)]
  refine List.ext_getElem? fun j => ?_
  rw [List.getElem?_map, List.getElem?_modify, List.getElem?_map]
  cases hj : (rowKeys seconds (before ++ e' :: after))[j]? with
  | none => rfl
  | some key =>
    -- no other row has the key of the event
    have hsame : key = e'.key seconds ↔ k = j := by
      constructor
      · rintro rfl
        exact (List.getElem?_inj hlt (nodup_rowKeys _ _)).1 (hk.trans hj.symm)
      · rintro rfl
        exact Option.some.inj (hj.symm.trans hk)
    rw [Option.map_some, rowFor_more]
    simp only [hsame]
    rfl

theorem exists_summedInto (seconds : Int) (he : events[i]? = some e) :
    ∃ k, SummedInto seconds events i k ∧ (rowKeys seconds events)[k]? = some (e.key seconds) := by
  obtain ⟨k, hk⟩ := List.getElem?_of_mem (key_mem_rowKeys (List.mem_of_getElem? he))
  exact ⟨k, summedInto_of_key he hk, hk⟩

/-- There is one row that an event is summed into. -/
theorem SummedInto.unique {k' : Nat} (h : SummedInto seconds events i k)
    (h' : SummedInto seconds events i k') : k = k' := by
  by_contra hne
  obtain ⟨hk, hmore⟩ := h
  have hrow := List.getElem?_eq_getElem hk
  have hat := congrArg (·[k]?) ((hmore 1 0).symm.trans (h'.2 1 0))
  simp only [List.getElem?_modify, if_neg (Ne.symm hne), hrow, if_true] at hat
  have hpassed := congrArg WindowTotals.passed (Option.some.inj hat)
  exact Nat.succ_ne_self _ hpassed

/-- The row that an event is summed into has its key. -/
theorem key_of_summedInto (h : SummedInto seconds events i k) (he : events[i]? = some e) :
    (rowKeys seconds events)[k]? = some (e.key seconds) := by
  obtain ⟨k', h', hk'⟩ := exists_summedInto seconds he
  rw [h.unique h']
  exact hk'

/-- Two events are summed into one row if they have one key. -/
theorem summedInto_both_iff {j : Nat} {f : Event} (he : events[i]? = some e)
    (hf : events[j]? = some f) :
    (∃ k, SummedInto seconds events i k ∧ SummedInto seconds events j k) ↔
      e.key seconds = f.key seconds := by
  constructor
  · rintro ⟨k, hi, hj⟩
    exact Option.some.inj ((key_of_summedInto hi he).symm.trans (key_of_summedInto hj hf))
  · intro hkey
    obtain ⟨k, hi, hk⟩ := exists_summedInto seconds he
    exact ⟨k, hi, summedInto_of_key hf (hkey ▸ hk)⟩

/-! ## Alignment -/

/-- That a window of some seconds with a start has an instant in it, and starts at the multiple of
the seconds that is the floor of the instant. -/
structure Instant.Aligns (start : Instant) (seconds : Int) (t : Instant) : Prop where
  floor : start.seconds = windowNumber seconds t * seconds
  whole : start.nanos = 0
  multiple : seconds ∣ start.seconds
  le : start.le t = true
  lt : t.seconds < start.seconds + seconds

theorem aligns_windowStart {t : Instant} (hpos : 0 < seconds) (h : HasWindow seconds t) :
    (windowStart seconds t).Aligns seconds t := by
  obtain ⟨hseconds, hnanos⟩ := windowStart_of_hasWindow hpos h
  obtain ⟨hle, hlt⟩ := windowNumber_bounds hpos t
  refine ⟨hseconds, hnanos, hseconds ▸ Int.dvd_mul_left _ _, Instant.le_iff.2 ?_, ?_⟩
  · rw [hseconds, hnanos]
    rcases Int.lt_or_eq_of_le hle with hlt | heq
    · exact .inl hlt
    · exact .inr ⟨heq, Nat.zero_le _⟩
  · rw [hseconds]
    exact hlt

/-- Windows of a positive number of seconds are aligned.  Each event is summed into one row, that of
its rule in the window with the floor of its instant; so two events of a rule are summed into one
row if their instants have one floor.  Where the calendar has no such start, the instant is the
start itself, and events are summed into one row if their instants are the same. -/
theorem windowTotals_aligned (hpos : 0 < seconds) (events : List Event) :
    (∀ i e, events[i]? = some e → ∃ k row, SummedInto seconds events i k ∧
      (∀ k', SummedInto seconds events i k' → k' = k) ∧
      (windowTotals seconds events)[k]? = some row ∧ row.rule = e.rule ∧
      (HasWindow seconds e.timestamp → row.start.Aligns seconds e.timestamp) ∧
      (¬ HasWindow seconds e.timestamp → row.start = e.timestamp)) ∧
    ∀ i j e f, events[i]? = some e → events[j]? = some f → e.rule = f.rule →
      (HasWindow seconds e.timestamp →
        ((∃ k, SummedInto seconds events i k ∧ SummedInto seconds events j k) ↔
          windowNumber seconds e.timestamp = windowNumber seconds f.timestamp)) ∧
      (¬ HasWindow seconds e.timestamp → ¬ HasWindow seconds f.timestamp →
        ((∃ k, SummedInto seconds events i k ∧ SummedInto seconds events j k) ↔
          e.timestamp = f.timestamp)) := by
  refine ⟨fun i e he => ?_, fun i j e f he hf hrule => ?_⟩
  · obtain ⟨k, hi, hk⟩ := exists_summedInto seconds he
    rw [rowKeys, List.getElem?_map] at hk
    obtain ⟨row, hrow, hkey⟩ := Option.map_eq_some_iff.1 hk
    obtain ⟨hstart, hrule⟩ := Prod.mk.inj hkey
    refine ⟨k, row, hi, fun k' hk' => hk'.unique hi, hrow, hrule, fun h => ?_, fun h => ?_⟩
    · rw [hstart]
      exact aligns_windowStart hpos h
    · rw [hstart]
      exact windowStart_of_not_hasWindow hpos h
  · have hkey : e.key seconds = f.key seconds ↔
        windowStart seconds e.timestamp = windowStart seconds f.timestamp :=
      ⟨congrArg Prod.fst, fun hstart => Prod.ext hstart hrule⟩
    rw [summedInto_both_iff he hf, hkey]
    refine ⟨windowStart_eq_iff hpos, fun h h' => ?_⟩
    rw [windowStart_of_not_hasWindow hpos h, windowStart_of_not_hasWindow hpos h']

end

/-- Three events in the minutes around the start of 1970: half a second before it and a minute
before it are in one window, it is in the next. -/
theorem windowTotals_aligned_aroundEpoch :
    let justBefore : Instant := ⟨-1, 500000000, by decide, by decide, by decide⟩
    let minuteBefore : Instant := ⟨-60, 0, by decide, by decide, by decide⟩
    let events : List Event := [⟨justBefore, "clean", "a", 1, 0⟩,
      ⟨minuteBefore, "clean", "a", 2, 1⟩, ⟨.epoch, "clean", "a", 4, 0⟩]
    (0 : Int) < 60 ∧
    (∃ k row, SummedInto 60 events 0 k ∧ (windowTotals 60 events)[k]? = some row ∧
      row.start.Aligns 60 justBefore) ∧
    (∃ k, SummedInto 60 events 0 k ∧ SummedInto 60 events 1 k) ∧
    ¬ ∃ k, SummedInto 60 events 1 k ∧ SummedInto 60 events 2 k := by
  intro justBefore minuteBefore events
  have hpos : (0 : Int) < 60 := by decide
  obtain ⟨hrows, htogether⟩ := windowTotals_aligned hpos events
  obtain ⟨k, row, hk, -, hrow, -, haligns, -⟩ := hrows 0 _ rfl
  refine ⟨hpos, ⟨k, row, hk, hrow, haligns (by decide)⟩, ?_, ?_⟩
  · exact ((htogether 0 1 _ _ rfl rfl rfl).1 (by decide)).2 (by decide)
  · exact fun h => absurd (((htogether 1 2 _ _ rfl rfl rfl).1 (by decide)).1 h) (by decide)

/-- Two events in the last seconds before 1970, and a window of so many seconds that it would start
before the first year: the floors are the same, but there are two rows. -/
theorem not_summedInto_one_row :
    let e : Event := ⟨⟨-1, 0, by decide, by decide, by decide⟩, "clean", "a", 1, 0⟩
    let f : Event := ⟨⟨-2, 0, by decide, by decide, by decide⟩, "clean", "a", 1, 0⟩
    e.rule = f.rule ∧
      windowNumber 10000000000000 e.timestamp = windowNumber 10000000000000 f.timestamp ∧
      ¬ ∃ k, SummedInto 10000000000000 [e, f] 0 k ∧ SummedInto 10000000000000 [e, f] 1 k := by
  intro e f
  refine ⟨rfl, by decide, fun h => ?_⟩
  have hkey := (summedInto_both_iff (i := 0) (j := 1) rfl rfl).1 h
  revert hkey
  decide

end Quarantine
