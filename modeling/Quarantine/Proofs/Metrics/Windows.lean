import Quarantine.Proofs.Metrics.Totals

/-!
# What totals by window hold

Windows are kept in order of time, each start once.  The rows of a window are the totals of the
events in it, so that no event is lost between the windows and none is counted twice.

    rows at start           = totals (the events with the window start)
    sums over the windows   = sums over the events = rows of totals
-/

namespace Quarantine

/-! ## The order of instants -/

namespace Instant

variable {a b c : Instant}

theorem lt_iff : a.lt b = true ↔
    a.seconds < b.seconds ∨ a.seconds = b.seconds ∧ a.nanos < b.nanos := by
  simp only [lt, le, Bool.not_eq_true', Bool.or_eq_false_iff, decide_eq_false_iff_not,
    Bool.and_eq_false_iff, beq_eq_false_iff_ne]
  omega

theorem le_iff : a.le b = true ↔
    a.seconds < b.seconds ∨ a.seconds = b.seconds ∧ a.nanos ≤ b.nanos := by
  simp only [le, Bool.or_eq_true, decide_eq_true_eq, Bool.and_eq_true, beq_iff_eq]

theorem le_refl (a : Instant) : a.le a = true := le_iff.2 (.inr ⟨rfl, Nat.le_refl _⟩)

theorem le_of_lt (h : a.lt b = true) : a.le b = true := by
  rw [lt_iff] at h
  rw [le_iff]
  omega

theorem lt_trans (h : a.lt b = true) (h' : b.lt c = true) : a.lt c = true := by
  rw [lt_iff] at h h' ⊢
  omega

theorem ne_of_lt (h : a.lt b = true) : a ≠ b := by
  rintro rfl
  rw [lt_iff] at h
  omega

/-- An instant is its counts. -/
theorem eq_of_counts (hseconds : a.seconds = b.seconds) (hnanos : a.nanos = b.nanos) : a = b := by
  cases a
  cases b
  cases hseconds
  cases hnanos
  rfl

/-- Of two instants one is earlier. -/
theorem lt_of_ne (hne : a ≠ b) (h : ¬ b.lt a = true) : a.lt b = true := by
  rw [lt_iff] at h ⊢
  by_cases hseconds : a.seconds = b.seconds
  · have hnanos : a.nanos ≠ b.nanos := fun hnanos => hne (eq_of_counts hseconds hnanos)
    omega
  · omega

end Instant

/-! ## One event -/

namespace Window

/-- Windows are in order of time, each start once. -/
def Ascending (ws : List Window) : Prop := ws.Pairwise fun v w => v.start.lt w.start = true

/-- The rows of the window with a start, if there is one. -/
def rowsAt (start : Instant) : List Window → List Totals
  | [] => []
  | w :: rest => if w.start = start then w.rows ++ rowsAt start rest else rowsAt start rest

variable {start : Instant} {e : Event} {ws : List Window} {w : Window}

/-- A window with the start, or with one that was there. -/
theorem start_of_mem_add (h : w ∈ add start e ws) :
    w.start = start ∨ ∃ v ∈ ws, v.start = w.start := by
  induction ws with
  | nil => exact .inl (List.mem_singleton.1 h ▸ rfl)
  | cons v rest ih =>
    unfold add at h
    split at h
    · rcases List.mem_cons.1 h with rfl | h
      · exact .inl rfl
      · exact .inr ⟨w, List.mem_cons_of_mem _ h, rfl⟩
    · split at h
      · rcases List.mem_cons.1 h with rfl | h
        · exact .inl rfl
        · exact .inr ⟨w, h, rfl⟩
      · rcases List.mem_cons.1 h with rfl | h
        · exact .inr ⟨w, List.mem_cons_self, rfl⟩
        · exact (ih h).imp_right fun ⟨u, hu, hstart⟩ => ⟨u, List.mem_cons_of_mem _ hu, hstart⟩

theorem ascending_add (h : Ascending ws) : Ascending (add start e ws) := by
  induction ws with
  | nil => exact List.pairwise_singleton _ _
  | cons v rest ih =>
    obtain ⟨hfirst, hrest⟩ := List.pairwise_cons.1 h
    unfold add
    split
    · next heq => exact List.pairwise_cons.2 ⟨fun w hw => heq ▸ hfirst w hw, hrest⟩
    · next hne =>
      split
      · next hlt =>
        refine List.pairwise_cons.2 ⟨fun w hw => ?_, h⟩
        rcases List.mem_cons.1 hw with rfl | hw
        · exact hlt
        · exact Instant.lt_trans hlt (hfirst w hw)
      · next hlt =>
        refine List.pairwise_cons.2 ⟨fun w hw => ?_, ih hrest⟩
        rcases start_of_mem_add hw with hstart | ⟨u, hu, hstart⟩
        · exact hstart ▸ Instant.lt_of_ne hne hlt
        · exact hstart ▸ hfirst u hu

theorem rowsAt_cons_of_eq (h : w.start = start) :
    rowsAt start (w :: ws) = w.rows ++ rowsAt start ws := if_pos h

theorem rowsAt_cons_of_ne (h : w.start ≠ start) : rowsAt start (w :: ws) = rowsAt start ws :=
  if_neg h

theorem rowsAt_eq_nil (h : ∀ w ∈ ws, start.lt w.start = true) : rowsAt start ws = [] := by
  induction ws with
  | nil => rfl
  | cons v rest ih =>
    rw [rowsAt_cons_of_ne (Instant.ne_of_lt (h v List.mem_cons_self)).symm,
      ih fun w hw => h w (List.mem_cons_of_mem _ hw)]

/-- An event is counted in the window with its start. -/
theorem rowsAt_add_self (h : Ascending ws) :
    rowsAt start (add start e ws) = Totals.add (rowsAt start ws) e := by
  induction ws with
  | nil => exact (rowsAt_cons_of_eq rfl).trans (List.append_nil _)
  | cons v rest ih =>
    obtain ⟨hfirst, hrest⟩ := List.pairwise_cons.1 h
    unfold add
    split
    · next heq =>
      have hnone : rowsAt start rest = [] := rowsAt_eq_nil fun w hw => heq ▸ hfirst w hw
      rw [rowsAt, if_pos rfl, rowsAt_cons_of_eq heq, hnone, List.append_nil, List.append_nil]
    · next hne =>
      split
      · next hlt =>
        have hnone : rowsAt start (v :: rest) = [] := by
          refine rowsAt_eq_nil fun w hw => ?_
          rcases List.mem_cons.1 hw with rfl | hw
          · exact hlt
          · exact Instant.lt_trans hlt (hfirst w hw)
        rw [rowsAt, if_pos rfl, hnone, List.append_nil]
      · rw [rowsAt_cons_of_ne hne, rowsAt_cons_of_ne hne, ih hrest]

/-- The other windows stay as they are. -/
theorem rowsAt_add_of_ne {other : Instant} (h : start ≠ other) :
    rowsAt other (add start e ws) = rowsAt other ws := by
  induction ws with
  | nil => exact rowsAt_cons_of_ne h
  | cons v rest ih =>
    unfold add
    split
    · next heq => rw [rowsAt_cons_of_ne h, rowsAt_cons_of_ne (heq ▸ h)]
    · split
      · exact rowsAt_cons_of_ne h
      · by_cases hv : v.start = other
        · rw [rowsAt_cons_of_eq hv, rowsAt_cons_of_eq hv, ih]
        · rw [rowsAt_cons_of_ne hv, rowsAt_cons_of_ne hv, ih]

/-- Over all windows an event is counted once. -/
theorem sum_rows_add (rule : String) : Totals.sum rule ((add start e ws).flatMap rows) =
    Totals.sum rule (ws.flatMap rows ++ [e.row]) := by
  induction ws with
  | nil => rfl
  | cons v rest ih =>
    rw [List.flatMap_cons, add]
    split
    · rw [List.flatMap_cons, Totals.sum_append, Totals.sum_add, ← Totals.sum_append,
        List.append_assoc, List.append_assoc, Totals.sum_append, Totals.sum_append_comm [e.row],
        ← Totals.sum_append]
    · split
      · exact Totals.sum_append_comm [e.row] (v.rows ++ rest.flatMap rows)
      · rw [List.flatMap_cons, List.append_assoc, Totals.sum_append, ih, ← Totals.sum_append]

theorem rowsAt_of_mem (h : Ascending ws) (hw : w ∈ ws) : rowsAt w.start ws = w.rows := by
  induction ws with
  | nil => exact absurd hw List.not_mem_nil
  | cons v rest ih =>
    obtain ⟨hfirst, hrest⟩ := List.pairwise_cons.1 h
    rcases List.mem_cons.1 hw with rfl | hw
    · rw [rowsAt_cons_of_eq rfl, rowsAt_eq_nil hfirst, List.append_nil]
    · rw [rowsAt_cons_of_ne (Instant.ne_of_lt (hfirst w hw)), ih hrest hw]

/-- The rows of a window, with its start. -/
def totals (w : Window) : List WindowTotals :=
  w.rows.map fun t => ⟨w.start, t.rule, t.passed, t.failed⟩

end Window

/-! ## Any number of events -/

/-- The events in the window with a start. -/
def eventsAt (seconds : Int) (start : Instant) (events : List Event) : List Event :=
  events.filter fun e => windowStart seconds e.timestamp = start

section

variable {seconds : Int} {start : Instant} {events : List Event} {e : Event}

theorem windows_concat : windows seconds (events ++ [e]) =
    Window.add (windowStart seconds e.timestamp) e (windows seconds events) := by
  rw [windows, List.foldl_append]
  rfl

theorem eventsAt_concat : eventsAt seconds start (events ++ [e]) = eventsAt seconds start events ++
    if windowStart seconds e.timestamp = start then [e] else [] := by
  rw [eventsAt, List.filter_append, List.filter_cons, List.filter_nil]
  simp only [decide_eq_true_eq]
  rfl

theorem ascending_windows (seconds : Int) (events : List Event) :
    Window.Ascending (windows seconds events) := by
  induction events using List.reverseRecOn with
  | nil => exact List.Pairwise.nil
  | append_singleton events e ih =>
    rw [windows_concat]
    exact Window.ascending_add ih

/-- A window holds the totals of its events. -/
theorem rowsAt_windows (seconds : Int) (start : Instant) (events : List Event) :
    Window.rowsAt start (windows seconds events) = totals (eventsAt seconds start events) := by
  induction events using List.reverseRecOn with
  | nil => rfl
  | append_singleton events e ih =>
    rw [windows_concat, eventsAt_concat]
    split
    · next h => rw [h, Window.rowsAt_add_self (ascending_windows seconds events), ih, totals_concat]
    · next h => rw [Window.rowsAt_add_of_ne h, ih, List.append_nil]

theorem sum_rows_windows (rule : String) (seconds : Int) (events : List Event) :
    Totals.sum rule ((windows seconds events).flatMap Window.rows) =
      Totals.sum rule (events.map Event.row) := by
  induction events using List.reverseRecOn with
  | nil => rfl
  | append_singleton events e ih =>
    rw [windows_concat, Window.sum_rows_add, Totals.sum_append, ih, ← Totals.sum_append,
      List.map_append, List.map_singleton]

end

/-! ## Rows -/

/-- A row without its window. -/
def WindowTotals.row (t : WindowTotals) : Totals := ⟨t.rule, t.passed, t.failed⟩

theorem Window.map_row_totals (w : Window) : w.totals.map WindowTotals.row = w.rows := by
  rw [Window.totals, List.map_map]
  exact List.map_id w.rows

/-- The rows of a window are found by its start. -/
theorem Window.map_row_filter (start : Instant) (ws : List Window) :
    ((ws.flatMap Window.totals).filter (·.start = start)).map WindowTotals.row =
      Window.rowsAt start ws := by
  induction ws with
  | nil => rfl
  | cons w rest ih =>
    rw [List.flatMap_cons, List.filter_append, List.map_append, ih]
    by_cases h : w.start = start
    · have hall : w.totals.filter (·.start = start) = w.totals := by
        refine List.filter_eq_self.2 fun t ht => ?_
        obtain ⟨row, -, rfl⟩ := List.mem_map.1 ht
        exact decide_eq_true h
      rw [hall, Window.map_row_totals, Window.rowsAt_cons_of_eq h]
    · have hnone : w.totals.filter (·.start = start) = [] := by
        refine List.filter_eq_nil_iff.2 fun t ht => ?_
        obtain ⟨row, -, rfl⟩ := List.mem_map.1 ht
        rw [decide_eq_false h]
        decide
      rw [hnone, Window.rowsAt_cons_of_ne h, List.map_nil, List.nil_append]

section

variable (seconds : Int) (events : List Event)

theorem map_row_windowTotals : (windowTotals seconds events).map WindowTotals.row =
    (windows seconds events).flatMap Window.rows := by
  rw [windowTotals, List.map_flatMap]
  exact congrArg (List.flatMap · _) (funext Window.map_row_totals)

theorem map_row_windowTotals_at (start : Instant) :
    ((windowTotals seconds events).filter (·.start = start)).map WindowTotals.row =
      totals (eventsAt seconds start events) :=
  (Window.map_row_filter start _).trans (rowsAt_windows seconds start events)

theorem pairwise_windowTotals :
    (windowTotals seconds events).Pairwise fun s t => s.start.le t.start = true := by
  refine List.pairwise_flatMap.2 ⟨fun w _ => ?_, (ascending_windows seconds events).imp ?_⟩
  · exact List.pairwise_map.2 (List.pairwise_of_forall fun _ _ => Instant.le_refl w.start)
  · intro v w hlt s hs t ht
    obtain ⟨_, -, rfl⟩ := List.mem_map.1 hs
    obtain ⟨_, -, rfl⟩ := List.mem_map.1 ht
    exact Instant.le_of_lt hlt

theorem nodup_windowTotals :
    ((windowTotals seconds events).map fun t => (t.start, t.rule)).Nodup := by
  have hascending := ascending_windows seconds events
  refine List.pairwise_map.2 (List.pairwise_flatMap.2 ⟨fun w hw => ?_, hascending.imp ?_⟩)
  · -- within a window the rules differ
    have hrows : w.rows = totals (eventsAt seconds w.start events) := by
      rw [← Window.rowsAt_of_mem hascending hw, rowsAt_windows]
    have hnodup : (w.rows.map Totals.rule).Nodup := hrows ▸ nodup_totals _
    exact List.pairwise_map.2 ((List.pairwise_map.1 hnodup).imp fun hne he =>
      hne (congrArg Prod.snd he))
  · -- and between two windows the starts
    intro v w hlt s hs t ht
    obtain ⟨_, -, rfl⟩ := List.mem_map.1 hs
    obtain ⟨_, -, rfl⟩ := List.mem_map.1 ht
    exact fun he => Instant.ne_of_lt hlt (congrArg Prod.fst he)

/-- Grouping by windows loses no event and counts none twice, whatever the number of seconds: zero
and negative numbers are among them, and what is less than a second is zero.  The rows are in order
of time, no rule comes twice in a window, and the rows of a window are the totals of its events,
the rules as they are first seen in it.  For each rule the rows sum up to its row in the totals
of all events. -/
theorem windowTotals_grouped :
    (windowTotals seconds events).Pairwise (fun s t => s.start.le t.start = true) ∧
    ((windowTotals seconds events).map fun t => (t.start, t.rule)).Nodup ∧
    (∀ start, ((windowTotals seconds events).filter (·.start = start)).map WindowTotals.row =
        totals (eventsAt seconds start events) ∧
      ((windowTotals seconds events).filter (·.start = start)).map WindowTotals.rule =
        rulesSeen (eventsAt seconds start events)) ∧
    totals events = (rulesSeen events).map (fun rule =>
      Totals.sum rule ((windowTotals seconds events).map WindowTotals.row)) ∧
    ∀ rule, Totals.sum rule ((windowTotals seconds events).map WindowTotals.row) =
      Totals.sum rule (totals events) := by
  have hsums (rule : String) : Totals.sum rule ((windowTotals seconds events).map WindowTotals.row) =
      Totals.sum rule (events.map Event.row) := by
    rw [map_row_windowTotals, sum_rows_windows]
  refine ⟨pairwise_windowTotals seconds events, nodup_windowTotals seconds events,
    fun start => ⟨map_row_windowTotals_at seconds events start, ?_⟩, ?_, fun rule => ?_⟩
  · rw [← map_rule_totals, ← map_row_windowTotals_at, List.map_map]
    rfl
  · rw [totals_eq]
    exact List.map_congr_left fun rule _ => (hsums rule).symm
  · rw [hsums, sum_totals]

end

end Quarantine
