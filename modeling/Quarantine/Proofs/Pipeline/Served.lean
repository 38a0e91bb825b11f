import Quarantine.Proofs.Pipeline.Leftovers

/-!
# Files are given until they are committed

A directory keeps a file in its queue until the file is committed.  So the batch of a step that
failed is given again, as long as the file is not changed; and whatever becomes of the steps of
a runner, each file that was listed is committed or still in the queue.

    Follows.again    after a batch that is not committed comes that batch
    Owes c names     each of the files is committed or in the queue
    Series r r'      steps lead from r to r'; what is owed at r is owed at r'

Lists that are held in memory leave the queue when they are given.
-/

namespace Quarantine

open Quarantine.Disk Quarantine.Job

/-! ## Sources -/

namespace Source

variable {c c' : Checkpoint} {d d' : Disk} {src src' : Source} {names : List String}
  {s : Surroundings} {batch : InputBatch} {path : Path} {pending : Option (List String)}
  {result : Except Failure (Option InputBatch)}

theorem dropWhile_rest {name : String} {rest : List String}
    (h : names.dropWhile c.isProcessed = name :: rest) :
    (name :: rest).dropWhile c.isProcessed = name :: rest :=
  List.dropWhile_cons_of_neg (Bool.eq_false_iff.1 (not_processed_of_first h))

/-- A batch that is not committed is given again, or reading its file fails; the queue stays. -/
theorem Follows.again (h : Follows c d (.directory path pending) (.ok (some batch)) src)
    (hread : d'.read (path.join batch.source) = d.read (path.join batch.source))
    (h' : Follows c d' src result src') :
    src' = src ∧ (result = .ok (some batch) ∨ ∃ e, result = .error e) := by
  cases h with
  | read queue first holds =>
  have hqueue {names' : List String} {name : String} {rest : List String}
      (h : Queue path c d' (some (name :: rest)) names')
      (hfirst : (name :: rest).dropWhile c.isProcessed = name :: rest) :
      names'.dropWhile c.isProcessed = name :: rest := by
    obtain rfl := h.eq
    exact hfirst
  cases h' with
  | unlisted e => exact ⟨rfl, .inr ⟨_, rfl⟩⟩
  | finished queue' processed =>
    rw [hqueue queue' (dropWhile_rest first)] at processed
    cases processed
  | unread queue' first' e =>
    obtain ⟨rfl, rfl⟩ := List.cons.inj ((hqueue queue' (dropWhile_rest first)).symm.trans first')
    exact ⟨rfl, .inr ⟨e, rfl⟩⟩
  | read queue' first' holds' =>
    obtain ⟨rfl, rfl⟩ := List.cons.inj ((hqueue queue' (dropWhile_rest first)).symm.trans first')
    rw [(holds.mono fun _ hc => hread.trans hc).eq holds']
    exact ⟨rfl, .inl rfl⟩

/-- If nothing is refused, reading does not fail. -/
theorem Follows.next_again (h : Follows c d (.directory path pending) (.ok (some batch)) src)
    (hread : d'.read (path.join batch.source) = d.read (path.join batch.source))
    (s : Surroundings) : (src.next c).run s d' = ((.ok (some batch), src), d') := by
  cases h with
  | read listed first holds =>
    exact run_next rfl (dropWhile_rest first) (holds.mono fun _ hc => hread.trans hc)

/-! ### What is still to come -/

/-- That files of a directory are committed or still in the queue. -/
inductive Owes (c : Checkpoint) (names : List String) : Source → Prop
  | listed {path : Path} {pending : List String}
    (h : ∀ name ∈ names, c.isProcessed name = true ∨ name ∈ pending) :
    Owes c names (.directory path (some pending))

theorem Owes.mono (h : Owes c names src)
    (hc : ∀ name, c.isProcessed name = true → c'.isProcessed name = true) :
    Owes c' names src := by
  cases h with
  | listed h => exact .listed fun name hname => (h name hname).imp_left (hc name)

theorem mem_dropWhile_or {pending : List String} {name : String} (h : name ∈ pending) :
    c.isProcessed name = true ∨ name ∈ pending.dropWhile c.isProcessed := by
  rw [← List.takeWhile_append_dropWhile (p := c.isProcessed) (l := pending)] at h
  rcases List.mem_append.1 h with h | h
  · exact .inl (List.all_eq_true.1 List.all_takeWhile name h)
  · exact .inr h

/-- A source gives nothing away but files that are committed. -/
theorem Follows.owes (h : Follows c d src result src') (hsrc : Owes c names src) :
    Owes c names src' := by
  cases hsrc with
  | @listed path pending hnames =>
  have hleft {names' : List String} (hqueue : Queue path c d (some pending) names') (name : String)
      (hname : name ∈ names) :
      c.isProcessed name = true ∨ name ∈ names'.dropWhile c.isProcessed := by
    obtain rfl := hqueue.eq
    exact (hnames name hname).elim .inl mem_dropWhile_or
  cases h with
  | unlisted e => exact .listed hnames
  | finished queue processed => exact .listed (processed ▸ hleft queue)
  | unread queue first e => exact .listed (first ▸ hleft queue)
  | read queue first holds => exact .listed (first ▸ hleft queue)

/-- A directory that is listed owes all files that are found. -/
theorem Follows.owes_found (h : Follows c d (.directory path none) result src) :
    src = .directory path none ∨
      ∃ found, d.list path = .ok found ∧ Owes c (wanted found) src := by
  have hleft {names' : List String} (hqueue : Queue path c d none names') :
      ∃ found, d.list path = .ok found ∧ ∀ name ∈ wanted found,
        c.isProcessed name = true ∨ name ∈ names'.dropWhile c.isProcessed := by
    rcases hqueue with h | ⟨-, found, hl, rfl⟩
    · cases h
    · refine ⟨found, hl, fun name hname => ?_⟩
      cases hc : c.isProcessed name with
      | true => exact .inl rfl
      | false =>
        have hmem : name ∈ (wanted found).filter fun name => !c.isProcessed name :=
          List.mem_filter.2 ⟨hname, congrArg not hc⟩
        rw [← hc]
        exact mem_dropWhile_or hmem
  cases h with
  | unlisted e => exact .inl rfl
  | finished queue processed =>
    obtain ⟨found, hl, hfound⟩ := hleft queue
    exact .inr ⟨found, hl, .listed (processed ▸ hfound)⟩
  | unread queue first e =>
    obtain ⟨found, hl, hfound⟩ := hleft queue
    exact .inr ⟨found, hl, .listed (first ▸ hfound)⟩
  | read queue first holds =>
    obtain ⟨found, hl, hfound⟩ := hleft queue
    exact .inr ⟨found, hl, .listed (first ▸ hfound)⟩

/-- A source that has come to its end owes nothing. -/
theorem Follows.committed (h : Follows c d src (.ok none) src') (hsrc : Owes c names src)
    {name : String} (hname : name ∈ names) : c.isProcessed name = true := by
  have howes := h.owes hsrc
  cases h with
  | memoryEnd => cases hsrc
  | finished queue processed =>
    cases howes with
    | listed hnames => exact (hnames name hname).resolve_right List.not_mem_nil

/-- A list that is held in memory leaves the queue when it is given. -/
theorem Follows.exists_drop {batches : List (List Record)} {served : Nat}
    (h : Follows c d (.memory batches served) result src) :
    ∃ n, src = .memory (batches.drop n) (served + n) ∧ (batches ≠ [] → n = 1) := by
  cases h with
  | memoryEnd => exact ⟨0, rfl, fun h => absurd rfl h⟩
  | memory => exact ⟨1, rfl, fun _ => rfl⟩

end Source

/-! ## Runners -/

namespace Runner

variable {r r' r'' : Runner} {d d' : Disk} {s : Surroundings} {fates rest : List Fate}
  {result : Except Failure (Option BatchReport)} {names : List String}

/-- What a step can come to: it fails with what the source gave, the source has come to its end,
or a batch of it is committed. -/
inductive Comes (r : Runner) (d : Disk) : Except Failure (Option BatchReport) → Runner → Prop
  | failed (e : Failure) {given : Except Failure (Option InputBatch)} {src : Source}
    (h : Source.Follows r.checkpoint d r.source given src) :
    Comes r d (.error e) { r with source := src }
  | ended {src : Source} (h : Source.Follows r.checkpoint d r.source (.ok none) src) :
    Comes r d (.ok none) { r with source := src }
  | committed {batch : InputBatch} {src : Source}
    (h : Source.Follows r.checkpoint d r.source (.ok (some batch)) src) (o : BatchOutcome)
    (time : Instant) :
    Comes r d (.ok (some (r.report o batch)))
      (Runner.committed { r with source := src } o time batch)

theorem comes_of_step (h : r.step.runUnder s fates d = ⟨some (result, r'), rest, d'⟩) :
    r.Comes d result r' := by
  have hstep : Action.Ensures s (fun _ => True) (fun x _ => r.Comes d x.1 x.2) r.step d := by
    refine ensures_step trivial (fun e src hf => .failed e hf) (fun src hf => .ended hf)
      fun batch src hf => ⟨fun _ => True, fun d' _ => ⟨trivial, fun e => .failed e hf⟩, ?_⟩
    refine ensures_runBatch trivial fun time entryId _ => ?_
    refine (ensures_trivial _ d).mono (fun _ h => h) fun _ d₁ _ => ?_
    exact (ensures_trivial _ d₁).mono (fun _ h => h) fun _ _ _ => .committed hf _ time
  exact hstep.result h

theorem Comes.exists_follows (h : r.Comes d result r') :
    ∃ given, Source.Follows r.checkpoint d r.source given r'.source := by
  cases h with
  | failed e h => exact ⟨_, h⟩
  | ended h => exact ⟨_, h⟩
  | committed h o time => exact ⟨_, h⟩

/-- That what was committed stays so, and what was owed is committed or owed. -/
structure Continues (r r' : Runner) : Prop where
  committed : ∀ name, r.checkpoint.isProcessed name = true →
    r'.checkpoint.isProcessed name = true
  owes : ∀ names, r.source.Owes r.checkpoint names → r'.source.Owes r'.checkpoint names

theorem Continues.trans (h : r.Continues r') (h' : r'.Continues r'') : r.Continues r'' :=
  ⟨fun name hname => h'.committed name (h.committed name hname),
    fun names hnames => h'.owes names (h.owes names hnames)⟩

theorem Comes.continues (h : r.Comes d result r') : r.Continues r' := by
  cases h with
  | failed e h => exact ⟨fun _ hname => hname, fun _ hnames => h.owes hnames⟩
  | ended h => exact ⟨fun _ hname => hname, fun _ hnames => h.owes hnames⟩
  | @committed batch src h o time =>
    have hcommit (name : String) (hname : r.checkpoint.isProcessed name = true) :
        (r.checkpoint.commit r.checkpoint.next batch.source time).isProcessed name = true :=
      (Checkpoint.isProcessed_commit ..).2 (.inr hname)
    exact ⟨hcommit, fun _ hnames => (h.owes hnames).mono hcommit⟩

/-- A step that lists a directory owes the files that it finds. -/
theorem owes_of_step {path : Path} (hsrc : r.source = .directory path none)
    (h : r.step.runUnder s fates d = ⟨some (result, r'), rest, d'⟩) :
    r'.source = .directory path none ∨ ∃ found, d.list path = .ok found ∧
      r'.source.Owes r'.checkpoint (Source.wanted found) := by
  obtain ⟨given, hgiven⟩ := (comes_of_step h).exists_follows
  rw [hsrc] at hgiven
  refine hgiven.owes_found.imp_right ?_
  rintro ⟨found, hl, howes⟩
  exact ⟨found, hl, howes.mono (comes_of_step h).continues.committed⟩

/-- A step that commits a file commits one that was not committed before. -/
theorem committed_of_step {path : Path} {pending : Option (List String)} {report : BatchReport}
    (hsrc : r.source = .directory path pending)
    (h : r.step.runUnder s fates d = ⟨some (.ok (some report), r'), rest, d'⟩) :
    r.checkpoint.isProcessed report.source = false ∧
      r'.checkpoint.isProcessed report.source = true := by
  have hcomes := comes_of_step h
  generalize hresult : (Except.ok (some report) : Except Failure _) = result at hcomes
  cases hcomes with
  | failed | ended => cases hresult
  | @committed batch src hfollows o time =>
    cases hresult
    rw [hsrc] at hfollows
    cases hfollows with
    | read listed first holds =>
      exact ⟨Source.not_processed_of_first first, (Checkpoint.isProcessed_commit ..).2 (.inl rfl)⟩

/-- A step that was given a batch and failed leaves a source that gives the batch again, if the
file is as it was and nothing is refused. -/
theorem next_of_failed_step {path : Path} {pending : Option (List String)} {batch : InputBatch}
    {e : Failure} (hsrc : r.source = .directory path pending)
    (hgives : r.gives s fates d = some batch)
    (h : r.step.runUnder s fates d = ⟨some (.error e, r'), rest, d'⟩) {d'' : Disk}
    (hread : d''.read (path.join batch.source) = d.read (path.join batch.source))
    (s' : Surroundings) : (r'.source.next r'.checkpoint).run s' d'' =
      ((.ok (some batch), r'.source), d'') := by
  have hasked := Action.Ensures.under (Source.ensures_next (s := s) (S := fun _ => True)
    (Q := fun x _ => Source.Follows r.checkpoint d r.source x.1 x.2) trivial
    fun _ _ hf => hf) fates
  rw [step, Action.runUnder_bind] at h
  unfold gives at hgives
  generalize (r.source.next r.checkpoint).runUnder s fates d = asked at h hgives hasked
  obtain ⟨_ | ⟨e' | given, src⟩, fates₁, d₁⟩ := asked
  · cases hgives
  · cases hgives
  · obtain rfl : given = some batch := hgives
    replace hasked : Source.Follows r.checkpoint d r.source (.ok (some batch)) src := hasked
    dsimp only at h
    rw [Action.runUnder_bind] at h
    generalize Action.runUnder s (({ r with source := src } : Runner).runBatch batch).run fates₁
      d₁ = ran at h
    obtain ⟨_ | e' | x, fates₂, d₂⟩ := ran
    · cases h
    · cases h
      exact (hsrc ▸ hasked).next_again hread s'
    · cases h

/-- A list from memory is not given again, whatever the result of the step is. -/
theorem source_of_step {records : List Record} {batches : List (List Record)} {served : Nat}
    (hsrc : r.source = .memory (records :: batches) served)
    (h : r.step.runUnder s fates d = ⟨some (result, r'), rest, d'⟩) :
    r'.source = .memory batches (served + 1) := by
  obtain ⟨given, hgiven⟩ := (comes_of_step h).exists_follows
  rw [hsrc] at hgiven
  obtain ⟨n, hn, hone⟩ := hgiven.exists_drop
  rw [hn, hone (List.cons_ne_nil _ _), List.drop_one, List.tail_cons]

/-! ### Any number of steps -/

/-- That steps lead from a runner to another, each on a disk and under fates of its own. -/
inductive Series (r : Runner) : Runner → Prop
  | refl : Series r r
  | step {r' r'' : Runner} {s : Surroundings} {fates rest : List Fate} {d d' : Disk}
    {result : Except Failure (Option BatchReport)} (hr : Series r r')
    (h : r'.step.runUnder s fates d = ⟨some (result, r''), rest, d'⟩) : Series r r''

theorem Series.continues (h : r.Series r') : r.Continues r' := by
  induction h with
  | refl => exact ⟨fun _ hname => hname, fun _ hnames => hnames⟩
  | step _ h ih => exact ih.trans (comes_of_step h).continues

/-- Steps take lists from memory, whether they commit them or not. -/
theorem Series.exists_drop (h : r.Series r') {batches : List (List Record)} {served : Nat}
    (hsrc : r.source = .memory batches served) :
    ∃ n, r'.source = .memory (batches.drop n) (served + n) := by
  induction h with
  | refl => exact ⟨0, hsrc⟩
  | step _ h ih =>
    obtain ⟨m, hm⟩ := ih
    obtain ⟨given, hgiven⟩ := (comes_of_step h).exists_follows
    rw [hm] at hgiven
    obtain ⟨n, hn, -⟩ := hgiven.exists_drop
    rw [List.drop_drop, Nat.add_assoc] at hn
    exact ⟨m + n, hn⟩

/-- Whatever steps were taken, when the source has come to its end no file is owed any more. -/
theorem Series.committed_at_end (h : r.Series r') (howes : r.source.Owes r.checkpoint names)
    (hend : r'.step.runUnder s fates d = ⟨some (.ok none, r''), rest, d'⟩) {name : String}
    (hname : name ∈ names) : r''.checkpoint.isProcessed name = true := by
  have howes' := h.continues.owes names howes
  have hcomes := comes_of_step hend
  generalize hresult : (Except.ok none : Except Failure (Option BatchReport)) = result at hcomes
  cases hcomes with
  | failed | committed => cases hresult
  | ended h => exact h.committed howes' hname

end Runner
end Quarantine
