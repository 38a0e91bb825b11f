import Quarantine.Proofs.Pipeline.Availability

/-!
# What is selected over a history

A root that was empty is opened any number of times with the same rules, and batches are committed
between attempts that fail.  What is selected for a batch is told by the records that are committed:

    for each batch   the rules that some record of the batch or of one before it does not pass
    once             those that some record does not pass of the batches before the runner was opened

Both are in the order of the rules, and whatever was selected for a batch is for the next one.
Records of attempts that failed are not among those that are committed, so they do not count.
-/

namespace Quarantine

open Quarantine.Disk Quarantine.Job

variable {rules : RuleSet} {cs : List Commit}

/-! ## Rules that fail -/

/-- The rules that some of the records do not pass, in their order. -/
def RuleSet.failingIn (rules : RuleSet) (records : List Record) : List String :=
  (rules.rules.filter fun rule => records.any fun r => !(rule.judge r).passed).map Rule.name

/-- More records fail more rules. -/
theorem RuleSet.failingIn_sublist {xs ys : List Record} (h : ∀ r ∈ xs, r ∈ ys) :
    (rules.failingIn xs).Sublist (rules.failingIn ys) := by
  have hsame : (rules.rules.filter fun rule => xs.any fun r => !(rule.judge r).passed) =
      (rules.rules.filter fun rule => ys.any fun r => !(rule.judge r).passed).filter
        fun rule => xs.any fun r => !(rule.judge r).passed := by
    rw [List.filter_filter]
    refine List.filter_congr fun rule _ => ?_
    cases hx : xs.any fun r => !(rule.judge r).passed with
    | false => rfl
    | true =>
      obtain ⟨r, hr, hfails⟩ := List.any_eq_true.1 hx
      exact (List.any_eq_true.2 ⟨r, h r hr, hfails⟩).symm
  unfold failingIn
  rw [hsame]
  exact List.filter_sublist.map _

/-- A rule has failed in the history of commits by a rule set where a record does not pass it. -/
theorem contains_historyOf (hrules : ∀ c ∈ cs, c.rules = rules) {rule : Rule}
    (hm : rule ∈ rules.rules) : (FailedRules.ofEvents (historyOf cs)).contains rule.name = true ↔
      ∃ c ∈ cs, ∃ r ∈ c.batch.records, (rule.judge r).passed = false := by
  have hcommit (c : Commit) (hc : c ∈ cs) :
      (FailedRules.ofEvents c.outcome.events).contains rule.name = true ↔
        ∃ r ∈ c.batch.records, (rule.judge r).passed = false := by
    rw [c.events_outcome, hrules c hc, contains_ofEvents_progressEvents]
    constructor
    · rintro ⟨rule', hm', hname, hfails⟩
      obtain rfl := RuleSet.eq_of_name_eq hm' hm hname
      exact hfails
    · intro hfails
      exact ⟨rule, hm, rfl, hfails⟩
  unfold historyOf
  rw [FailedRules.contains_ofEvents]
  constructor
  · rintro ⟨e, he, hfailed⟩
    obtain ⟨c, hc, he⟩ := List.mem_flatMap.1 he
    exact ⟨c, hc, (hcommit c hc).1 (FailedRules.contains_ofEvents.2 ⟨e, he, hfailed⟩)⟩
  · rintro ⟨c, hc, hfails⟩
    obtain ⟨e, he, hfailed⟩ := FailedRules.contains_ofEvents.1 ((hcommit c hc).2 hfails)
    exact ⟨e, List.mem_flatMap.2 ⟨c, hc, he⟩, hfailed⟩

/-- What is selected after commits by a rule set. -/
theorem names_select_historyOf (hrules : ∀ c ∈ cs, c.rules = rules) :
    (Plan.select (.ofEvents (historyOf cs)) rules).names =
      rules.failingIn (cs.map fun c => c.batch.records).flatten := by
  unfold Plan.names Plan.select RuleSet.failingIn
  refine congrArg (List.map Rule.name) (List.filter_congr fun rule hm => ?_)
  rw [Bool.eq_iff_iff, contains_historyOf hrules hm, List.any_eq_true]
  simp only [Bool.not_eq_true', List.mem_flatten, List.mem_map]
  constructor
  · rintro ⟨c, hc, r, hr, hfails⟩
    exact ⟨r, ⟨_, ⟨c, hc, rfl⟩, hr⟩, hfails⟩
  · rintro ⟨r, ⟨_, ⟨c, hc, rfl⟩, hr⟩, hfails⟩
    exact ⟨c, hc, r, hr, hfails⟩

/-! ## Sessions -/

section

variable {l : Layout} {start : Disk} {hs earlier earlier' session session' : List Happening}
  {x : World} {rules' : RuleSet} {frozen frozen' : Bool}

/-- After the last opening there is no other one. -/
theorem Unopened.last {between : List Happening} (h : Unopened session)
    (he : .opened rules frozen :: session = between ++ .opened rules' frozen' :: session') :
    between = [] ∧ frozen = frozen' ∧ session = session' := by
  rcases List.cons_eq_append_iff.1 he with ⟨rfl, hcons⟩ | ⟨between', -, hsession⟩
  · obtain ⟨hopened, hsession⟩ := List.cons.inj hcons
    obtain ⟨-, hfrozen⟩ := Happening.opened.inj hopened
    exact ⟨rfl, hfrozen.symm, hsession.symm⟩
  · refine absurd ?_ (h rules' frozen')
    rw [hsession]
    exact List.mem_append_right _ List.mem_cons_self

/-- The last opening is found in one way only. -/
theorem Unopened.unique (h : Unopened session) (h' : Unopened session')
    (he : earlier ++ .opened rules frozen :: session =
      earlier' ++ .opened rules' frozen' :: session') :
    earlier = earlier' ∧ frozen = frozen' ∧ session = session' := by
  rcases List.append_eq_append_iff.1 he with ⟨between, hearlier, hrest⟩ | ⟨between, hearlier, hrest⟩
  · obtain ⟨rfl, hfrozen, hsession⟩ := h.last hrest
    exact ⟨by rw [hearlier, List.append_nil], hfrozen, hsession⟩
  · obtain ⟨rfl, hfrozen, hsession⟩ := h'.last hrest
    exact ⟨by rw [hearlier, List.append_nil], hfrozen.symm, hsession.symm⟩

/-- The last opening before a later batch is after an earlier one, or it is the last before both. -/
theorem Unopened.split {before between : List Happening} {batch : InputBatch}
    {report : BatchReport} (h : Unopened session)
    (he : before ++ .committed batch report :: between =
      earlier ++ .opened rules frozen :: session) :
    (∃ rest, earlier = before ++ .committed batch report :: rest) ∨
      ∃ rest, before = earlier ++ .opened rules frozen :: rest ∧ Unopened rest := by
  rcases List.append_eq_append_iff.1 he with ⟨opened, hearlier, hrest⟩ | ⟨opened, hbefore, hrest⟩
  · rcases List.cons_eq_append_iff.1 hrest with ⟨-, hcons⟩ | ⟨rest, rfl, -⟩
    · cases hcons
    · exact .inl ⟨rest, hearlier⟩
  · rcases List.cons_eq_append_iff.1 hrest with ⟨-, hcons⟩ | ⟨rest, rfl, hsession⟩
    · cases hcons
    · refine .inr ⟨rest, hbefore, fun rules' frozen' hm => h rules' frozen' ?_⟩
      rw [hsession]
      exact List.mem_append_left _ hm

/-- The records that tell what is selected for a batch. -/
def recordsTelling (frozen : Bool) (earlier before : List Happening) (batch : InputBatch) :
    List Record :=
  (if frozen then recordsOf earlier else recordsOf before ++ [batch.records]).flatten

/-- The records that tell of a batch are committed with it. -/
theorem mem_recordsOf_of_telling {before rest : List Happening}
    (hbefore : before = earlier ++ rest) {batch : InputBatch} (report : BatchReport)
    (later : List Happening) {r : Record} (hr : r ∈ recordsTelling frozen earlier before batch) :
    r ∈ (recordsOf (before ++ .committed batch report :: later)).flatten := by
  have hcommitted : r ∈ (recordsOf (before ++ [.committed batch report])).flatten := by
    rw [recordsOf_append]
    cases frozen with
    | false => exact hr
    | true =>
      rw [hbefore, recordsOf_append, List.append_assoc, List.flatten_append]
      exact List.mem_append_left _ hr
  rw [← List.singleton_append, ← List.append_assoc, recordsOf_append, List.flatten_append]
  exact List.mem_append_left _ hcommitted

/-- That what was selected for a batch is told by what was seen before. -/
def ToldBy (rules : RuleSet) (before : List Happening) (batch : InputBatch)
    (report : BatchReport) : Prop :=
  ∃ earlier frozen session, before = earlier ++ .opened rules frozen :: session ∧
    Unopened session ∧
    report.selected = rules.failingIn (recordsTelling frozen earlier before batch)

/-- What a runner selects is told by what was seen. -/
theorem Chronicle.toldBy (h : Chronicle l hs cs x) {r : Runner} (hsession : r.InSession hs cs)
    (hhistory : r.history = historyOf cs)
    (hrules : ∀ rules' frozen, .opened rules' frozen ∈ hs → rules' = rules) (entryId : String)
    (time : Instant) (batch : InputBatch) :
    ToldBy rules hs batch (r.report (r.outcome entryId time batch) batch) := by
  obtain ⟨earlier, frozen, session, old, new, hhs, hunopened, hcs, hold, hfrozen⟩ := hsession
  obtain rfl : r.rules = rules := by
    refine hrules _ frozen ?_
    rw [hhs]
    exact List.mem_append_right _ List.mem_cons_self
  have hcommits : ∀ c ∈ cs, c.rules = r.rules := by
    intro c hc
    obtain ⟨frozen, hopened⟩ := h.rules c hc
    exact hrules _ frozen hopened
  refine ⟨earlier, frozen, session, hhs, hunopened, ?_⟩
  show (Plan.select (r.failedWith (r.outcome entryId time batch).events) r.rules).names = _
  unfold recordsTelling
  cases frozen with
  | true =>
    rw [Runner.failedWith, hfrozen, if_pos rfl, if_pos rfl, Option.getD_some, ← hold]
    refine names_select_historyOf fun c hc => hcommits c ?_
    rw [hcs]
    exact List.mem_append_left _ hc
  | false =>
    have hrecords : recordsOf hs ++ [batch.records] =
        (cs ++ [r.commitOf entryId time batch]).map fun c => c.batch.records := by
      rw [List.map_append, h.records]
      rfl
    rw [Runner.failedWith, hfrozen, if_neg Bool.false_ne_true, if_neg Bool.false_ne_true,
      Option.getD_none, hhistory, ← Runner.outcome_commitOf, ← historyOf_concat, hrecords]
    refine names_select_historyOf fun c hc => ?_
    rcases List.mem_append.1 hc with hc | hc
    · exact hcommits c hc
    · rw [List.mem_singleton.1 hc]
      rfl

/-! ## Histories -/

/-- That what was selected for each batch is told by what was seen before it. -/
def Told (rules : RuleSet) (hs : List Happening) : Prop :=
  ∀ before batch report after, hs = before ++ .committed batch report :: after →
    ToldBy rules before batch report

theorem Told.concat (h : Told rules hs) {e : Happening}
    (he : ∀ batch report, e = .committed batch report → ToldBy rules hs batch report) :
    Told rules (hs ++ [e]) := by
  intro before batch report after hsplit
  rcases concat_eq_append_cons hsplit with ⟨rfl, hlast, -⟩ | ⟨after', -, rfl⟩
  · exact he batch report hlast
  · exact h before batch report after' rfl

/-- With the same rules at every opening, what was seen tells what was selected. -/
theorem Life.told (hempty : EmptyRoot start l.root) (h : Life l start hs x)
    (hrules : ∀ rules' frozen, .opened rules' frozen ∈ hs → rules' = rules) : Told rules hs := by
  induction h with
  | begun =>
    intro before batch report after hsplit
    cases (List.append_eq_nil_iff.1 hsplit.symm).2
  | @moved hs x y e h m ih =>
    have hbefore : ∀ rules' frozen, .opened rules' frozen ∈ hs → rules' = rules :=
      fun rules' frozen hm => hrules rules' frozen (List.mem_append_left _ hm)
    cases e with
    | none =>
      rw [Option.toList_none, List.append_nil]
      exact ih hbefore
    | some e =>
      refine (ih hbefore).concat ?_
      rintro batch report rfl
      obtain ⟨r, source, s, fates, r', rest, hr, -, -, hrun⟩ := m.exists_ran
      obtain ⟨entryId, time, rfl, -⟩ := Runner.exists_outcome hrun
      obtain ⟨cs, hcs⟩ := h.exists_chronicle hempty
      -- the source plays no part in the session
      have hsession : Runner.InSession { r with source } hs cs := hcs.session r hr
      exact hcs.toldBy hsession (hcs.upToDate r hr).history hbefore entryId time batch

/-- What is selected for one batch is selected for every later one. -/
theorem Told.sublist (h : Told rules hs) {before between after : List Happening}
    {batch batch' : InputBatch} {report report' : BatchReport}
    (hsplit : hs = before ++ .committed batch report ::
      (between ++ .committed batch' report' :: after)) :
    report.selected.Sublist report'.selected := by
  obtain ⟨earlier, frozen, session, hbefore, hunopened, hselected⟩ :=
    h before batch report _ hsplit
  have hsplit' : hs = (before ++ .committed batch report :: between) ++
      .committed batch' report' :: after := by
    rw [hsplit, List.append_assoc, List.cons_append]
  obtain ⟨earlier', frozen', session', hbefore', hunopened', hselected'⟩ :=
    h _ batch' report' after hsplit'
  rw [hselected, hselected']
  refine RuleSet.failingIn_sublist ?_
  intro r hr
  have hlater (rest : List Happening) :=
    mem_recordsOf_of_telling hbefore report rest hr
  cases frozen' with
  | false =>
    unfold recordsTelling
    rw [if_neg Bool.false_ne_true, List.flatten_append]
    exact List.mem_append_left _ (hlater between)
  | true =>
    rcases hunopened'.split hbefore' with ⟨rest, rfl⟩ | ⟨rest, he, hrest⟩
    · exact hlater rest
    · -- both batches are of one runner
      obtain ⟨rfl, rfl, -⟩ := hunopened.unique hrest (hbefore.symm.trans he)
      exact hr

/-- How redactions are selected over what was seen, with the same rules at every opening. -/
structure SelectedOver (rules : RuleSet) (hs : List Happening) : Prop where
  /-- Every batch was committed by a runner that had been opened. -/
  opened : ∀ before batch report after, hs = before ++ .committed batch report :: after →
    ∃ earlier frozen session, before = earlier ++ .opened rules frozen :: session ∧
      Unopened session
  /-- For each batch: the rules that fail in it or in one that was committed before. -/
  perBatch : ∀ earlier session batch report after,
    hs = earlier ++ .opened rules false :: (session ++ .committed batch report :: after) →
    Unopened session →
    report.selected =
      rules.failingIn (recordsOf (earlier ++ session) ++ [batch.records]).flatten
  /-- Once: the rules that fail in the batches before the opening, the same for every batch. -/
  once : ∀ earlier session batch report after,
    hs = earlier ++ .opened rules true :: (session ++ .committed batch report :: after) →
    Unopened session → report.selected = rules.failingIn (recordsOf earlier).flatten
  /-- Nothing that was selected for a batch is missing for a later one. -/
  grows : ∀ before batch report between batch' report' after,
    hs = before ++ .committed batch report :: (between ++ .committed batch' report' :: after) →
    report.selected.Sublist report'.selected

/-- What a runner selects for a batch, from the opening that it is of. -/
theorem Told.selected (h : Told rules hs) {batch : InputBatch} {report : BatchReport}
    {after : List Happening} (hsplit : hs =
      earlier ++ .opened rules frozen :: (session ++ .committed batch report :: after))
    (hunopened : Unopened session) : report.selected = rules.failingIn
      (recordsTelling frozen earlier (earlier ++ .opened rules frozen :: session) batch) := by
  obtain ⟨earlier', frozen', session', hbefore, hunopened', hselected⟩ :=
    h (earlier ++ .opened rules frozen :: session) batch report after
      (by rw [hsplit, List.append_assoc, List.cons_append])
  obtain ⟨rfl, rfl, -⟩ := hunopened.unique hunopened' hbefore
  exact hselected

/-- Over any number of openings with the same rules, selections are told by the records that were
committed, whatever failed in between. -/
theorem Life.selectedOver (hempty : EmptyRoot start l.root) (h : Life l start hs x)
    (hrules : ∀ rules' frozen, .opened rules' frozen ∈ hs → rules' = rules) :
    SelectedOver rules hs := by
  have htold := h.told hempty hrules
  refine ⟨?_, ?_, ?_, ?_⟩
  · intro before batch report after hsplit
    obtain ⟨earlier, frozen, session, hbefore, hunopened, -⟩ :=
      htold before batch report after hsplit
    exact ⟨earlier, frozen, session, hbefore, hunopened⟩
  · intro earlier session batch report after hsplit hunopened
    rw [htold.selected hsplit hunopened, recordsTelling, recordsOf_append, recordsOf_append]
    rfl
  · intro earlier session batch report after hsplit hunopened
    rw [htold.selected hsplit hunopened]
    rfl
  · intro before batch report between batch' report' after hsplit
    exact htold.sublist hsplit

/-- A batch is committed, and the runner that is opened next selects once for another one. -/
theorem Life.selectedOver_sample : ∃ batch report batch' report' x,
    Life Runner.sample.layout .empty ([.opened Runner.sample.rules false] ++
      [.committed batch report] ++ [.opened Runner.sample.rules true] ++
        [.committed batch' report']) x ∧
    SelectedOver Runner.sample.rules ([.opened Runner.sample.rules false] ++
      [.committed batch report] ++ [.opened Runner.sample.rules true] ++
        [.committed batch' report']) ∧
    report.selected = ["c is a letter"] ∧ report'.selected = ["c is a letter"] := by
  have h64 : 1 < 0x10000000000000000 := by decide
  obtain ⟨x₀, r₀, h₀, hr₀⟩ := Life.exists_opened_sample
  obtain ⟨report, x₁, r₁, m₁, hr₁⟩ :=
    h₀.exists_committed emptyRoot_sample hr₀ (by decide) Runner.sampleBatch
  have h₁ := h₀.moved m₁
  obtain ⟨x₂, r₂, m₂, hr₂⟩ := h₁.exists_reopened emptyRoot_sample hr₁ Runner.sample.rules
    Runner.sample.source { Runner.sample.options with frozen := true }
  have h₂ := h₁.moved m₂
  obtain ⟨report', x₃, r₃, m₃, -⟩ :=
    h₂.exists_committed emptyRoot_sample hr₂ h64 ⟨"b.ndjson", []⟩
  have h₃ := h₂.moved m₃
  have hselected := @Life.selectedOver Runner.sample.rules _ _ _ _ emptyRoot_sample h₃ (by
    intro rules' frozen hm
    have hopened : rules' = Runner.sample.rules ∧ frozen = false ∨
        rules' = Runner.sample.rules ∧ frozen = true := by simpa using hm
    exact hopened.elim And.left And.left)
  have hfailing : Runner.sample.rules.failingIn [Runner.sampleBatch.records].flatten =
      ["c is a letter"] := by decide +kernel
  refine ⟨_, report, _, report', x₃, h₃, hselected, ?_, ?_⟩
  · exact (hselected.perBatch [] [] _ _ _ rfl unopened_nil).trans hfailing
  · exact (hselected.once [_, _] [] _ _ _ rfl unopened_nil).trans hfailing

end

end Quarantine
