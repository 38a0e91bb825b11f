import Quarantine.Proofs.Storage.Source

/-!
# Inferred columns

Columns are inferred from the first record in the queue of a directory.  The queue may still hold a
file that was committed after the last batch was asked for, and then the columns are those of that
file.  Where no file in the queue is committed, they are those of the record that is served next.

    FirstRecord d path names r    r is the first record in files of these names
    Infers c d src columns src'   what asking for columns can come to
    Serves d c src r              r is the first record that batches give, each committed in turn
    Fresh c src                   no file in the queue is committed

A directory stays fresh as long as each commit is of the batch given last, and the next batch is
asked for before columns are.
-/

namespace Quarantine.Source

open Quarantine.Disk Quarantine.Job

variable {s : Surroundings} {S : Disk → Prop} {d : Disk} {c : Checkpoint} {path : Path}
  {pending : Option (List String)} {names rest : List String} {name : String}
  {src src' : Source} {first first' : Option Record} {batch : InputBatch}
  {given : Option InputBatch} {id : Nat} {time : Instant}

/-! ## First records -/

/-- The first record in some files of a directory; those before it are empty. -/
inductive FirstRecord (d : Disk) (path : Path) : List String → Option Record → Prop
  | nil : FirstRecord d path [] none
  | record {name : String} {rest : List String} {r : Record} {rs : List Record}
    (holds : FileHolds d (path.join name) (r :: rs)) : FirstRecord d path (name :: rest) (some r)
  | empty {name : String} {rest : List String} {first : Option Record}
    (holds : FileHolds d (path.join name) []) (later : FirstRecord d path rest first) :
    FirstRecord d path (name :: rest) first

theorem FirstRecord.unique (h : FirstRecord d path names first)
    (h' : FirstRecord d path names first') : first' = first := by
  induction h with
  | nil => cases h'; rfl
  | record holds =>
    cases h' with
    | record holds' => exact congrArg some (List.cons.inj (holds.eq holds')).1
    | empty holds' => cases holds.eq holds'
  | empty holds _ ih =>
    cases h' with
    | record holds' => cases holds.eq holds'
    | empty holds' later => exact ih later

/-! ## Asking for columns -/

/-- What asking a directory for columns can come to, and what is left of it then. -/
inductive Infers (c : Checkpoint) (d : Disk) :
    Source → Except Failure (Option (List String)) → Source → Prop
  | unlisted (path : Path) (pending : Option (List String)) (e : Failure) :
    Infers c d (.directory path pending) (.error e) (.directory path pending)
  | unread {path : Path} {pending : Option (List String)} {names : List String}
    (queue : Queue path c d pending names) (e : Failure) :
    Infers c d (.directory path pending) (.error e) (.directory path (some names))
  | read {path : Path} {pending : Option (List String)} {names : List String}
    {first : Option Record} (queue : Queue path c d pending names)
    (h : FirstRecord d path names first) :
    Infers c d (.directory path pending) (.ok (first.map Record.columns))
      (.directory path (some names))

theorem ensures_firstColumns {Q : Option (List String) → Disk → Prop} (hs : S d)
    (hp : ∀ first, FirstRecord d path names first → Q (first.map Record.columns) d) :
    Job.Ensures s S Q (firstColumns path names) d := by
  induction names generalizing Q with
  | nil => exact Job.ensures_pure (hp none .nil)
  | cons name rest ih =>
    refine (ensures_readInput (Q := fun records d' => d' = d ∧
      FileHolds d (path.join name) records) path name hs fun records h => ⟨rfl, h⟩).bind ?_
    rintro records d' ⟨rfl, holds⟩
    cases records with
    | nil => exact ih fun first h => hp first (.empty holds h)
    | cons r rs => exact Job.ensures_pure (hp (some r) (.record holds))

/-- A directory infers what it may, whatever the fates, and changes no disk. -/
theorem ensures_infers
    {Q : Except Failure (Option (List String)) × Source → Disk → Prop} (hs : S d)
    (hp : ∀ result src', Infers c d (.directory path pending) result src' → Q (result, src') d) :
    ((directory path pending).inferColumns c).Ensures s S Q d := by
  have hqueue : Job.Ensures s (· = d) (fun names d' => d' = d ∧ Queue path c d pending names)
      (queue path c pending) d := ensures_queue path pending rfl fun names hq => ⟨rfl, hq⟩
  refine (hqueue.action hs).bind ?_
  rintro (e | names) d' ⟨rfl, hq⟩
  · exact Action.ensures_pure (hp _ _ (.unlisted path pending e))
  replace hq := hq names rfl
  have hcolumns : Job.Ensures s (· = d') (fun columns d'' => d'' = d' ∧
      ∃ first, FirstRecord d' path names first ∧ columns = first.map Record.columns)
      (firstColumns path names) d' :=
    ensures_firstColumns rfl fun first h => ⟨rfl, first, h, rfl⟩
  refine (hcolumns.action hs).bind ?_
  rintro (e | columns) d'' ⟨rfl, hr⟩
  · exact Action.ensures_pure (hp _ _ (.unread hq e))
  · obtain ⟨first, hfirst, rfl⟩ := hr columns rfl
    exact Action.ensures_pure (hp _ _ (.read hq hfirst))

theorem infers_of_inferColumns {result : Except Failure (Option (List String))}
    {fates left : List Fate} {d' : Disk} (h : ((directory path pending).inferColumns c).runUnder
      s fates d = ⟨some (result, src'), left, d'⟩) :
    Infers c d (.directory path pending) result src' := by
  have hinfers : ((directory path pending).inferColumns c).Ensures s (fun _ => True)
      (fun x _ => Infers c d (.directory path pending) x.1 x.2) d :=
    ensures_infers trivial fun _ _ h => h
  exact hinfers.result h

/-- Those of some files that are not committed. -/
def uncommitted (c : Checkpoint) (names : List String) : List String :=
  names.filter fun name => !c.isProcessed name

theorem uncommitted_cons_of_pos (h : c.isProcessed name = true) :
    uncommitted c (name :: rest) = uncommitted c rest := by
  simp [uncommitted, h]

theorem uncommitted_cons_of_neg (h : c.isProcessed name = false) :
    uncommitted c (name :: rest) = name :: uncommitted c rest := by
  simp [uncommitted, h]

/-- Dropping committed files at the front leaves the same files. -/
theorem uncommitted_dropWhile (c : Checkpoint) (names : List String) :
    uncommitted c (names.dropWhile c.isProcessed) = uncommitted c names := by
  induction names with
  | nil => rfl
  | cons name rest ih =>
    cases h : c.isProcessed name with
    | true => rw [List.dropWhile_cons_of_pos h, ih, uncommitted_cons_of_pos h]
    | false => rw [List.dropWhile_cons_of_neg (Bool.eq_false_iff.1 h)]

theorem uncommitted_of_dropWhile (h : names.dropWhile c.isProcessed = name :: rest) :
    uncommitted c names = name :: uncommitted c rest := by
  rw [← uncommitted_dropWhile, h, uncommitted_cons_of_neg (not_processed_of_first h)]

theorem exists_dropWhile {left : List String} (h : uncommitted c names = name :: left) :
    ∃ rest, names.dropWhile c.isProcessed = name :: rest ∧ uncommitted c rest = left := by
  cases hdrop : names.dropWhile c.isProcessed with
  | nil =>
    rw [← uncommitted_dropWhile, hdrop] at h
    cases h
  | cons name' rest =>
    rw [uncommitted_of_dropWhile hdrop] at h
    obtain ⟨rfl, rfl⟩ := List.cons.inj h
    exact ⟨rest, rfl, rfl⟩

theorem dropWhile_eq_nil (h : uncommitted c names = []) : names.dropWhile c.isProcessed = [] := by
  cases hdrop : names.dropWhile c.isProcessed with
  | nil => rfl
  | cons name rest =>
    rw [uncommitted_of_dropWhile hdrop] at h
    cases h

/-- Committing the first file takes it away, and no other. -/
theorem uncommitted_commit (hnodup : (name :: rest).Nodup) :
    uncommitted (c.commit id name time) (name :: rest) = uncommitted c rest := by
  rw [uncommitted_cons_of_pos ((Checkpoint.isProcessed_commit ..).2 (.inl rfl))]
  refine List.filter_congr fun other hother => congrArg not (Bool.eq_iff_iff.2 ?_)
  rw [Checkpoint.isProcessed_commit]
  exact or_iff_right fun h => (List.nodup_cons.1 hnodup).1 (h ▸ hother)

/-! ## What is served -/

/-- The first record that batches give, each committed in turn. -/
inductive Serves (d : Disk) : Checkpoint → Source → Option Record → Prop
  | ended {c : Checkpoint} {src src' : Source} (h : Follows c d src (.ok none) src') :
    Serves d c src none
  | record {c : Checkpoint} {src src' : Source} {name : String} {r : Record} {rs : List Record}
    (h : Follows c d src (.ok (some ⟨name, r :: rs⟩)) src') : Serves d c src (some r)
  | empty {c : Checkpoint} {src src' : Source} {name : String} {first : Option Record} (id : Nat)
    (time : Instant) (h : Follows c d src (.ok (some ⟨name, []⟩)) src')
    (later : Serves d (c.commit id name time) src' first) : Serves d c src first

theorem Serves.firstRecord (h : Serves d c (.directory path (some names)) first)
    (hnodup : names.Nodup) : FirstRecord d path (uncommitted c names) first := by
  generalize hsrc : Source.directory path (some names) = src at h
  induction h generalizing names with
  | ended h =>
    subst hsrc
    cases h with
    | finished queue processed =>
      obtain rfl := queue.eq
      rw [← uncommitted_dropWhile, processed]
      exact .nil
  | record h =>
    subst hsrc
    cases h with
    | read queue first holds =>
      obtain rfl := queue.eq
      rw [uncommitted_of_dropWhile first]
      exact .record holds
  | empty id time h later ih =>
    subst hsrc
    cases h with
    | read queue first holds =>
      obtain rfl := queue.eq
      have hrest := hnodup.sublist (first ▸ List.dropWhile_sublist _)
      rw [uncommitted_of_dropWhile first]
      exact .empty holds (uncommitted_commit hrest ▸ ih hrest rfl)

theorem FirstRecord.serves (h : FirstRecord d path (uncommitted c names) first)
    (hnodup : names.Nodup) : Serves d c (.directory path (some names)) first := by
  generalize hleft : uncommitted c names = left at h
  induction h generalizing c names with
  | nil => exact .ended (.finished (.inl rfl) (dropWhile_eq_nil hleft))
  | record holds =>
    obtain ⟨rest, hdrop, -⟩ := exists_dropWhile hleft
    exact .record (.read (.inl rfl) hdrop holds)
  | empty holds later ih =>
    obtain ⟨rest, hdrop, rfl⟩ := exists_dropWhile hleft
    have hrest := hnodup.sublist (hdrop ▸ List.dropWhile_sublist _)
    exact .empty c.next default (.read (.inl rfl) hdrop holds)
      (ih hrest (uncommitted_commit hrest))

/-- What is served next is the first record in the files of the queue that are not committed. -/
theorem serves_iff (hnodup : names.Nodup) : Serves d c (.directory path (some names)) first ↔
    FirstRecord d path (uncommitted c names) first :=
  ⟨fun h => h.firstRecord hnodup, fun h => h.serves hnodup⟩

/-! ## Fresh queues -/

/-- That no file in the queue of a directory is committed. -/
inductive Fresh (c : Checkpoint) : Source → Prop
  | unlisted (path : Path) : Fresh c (.directory path none)
  | listed (path : Path) {names : List String} (nodup : names.Nodup)
    (left : ∀ name ∈ names, c.isProcessed name = false) : Fresh c (.directory path (some names))

theorem uncommitted_eq_self (h : ∀ name ∈ names, c.isProcessed name = false) :
    uncommitted c names = names :=
  List.filter_eq_self.2 fun name hname => congrArg not (h name hname)

theorem dropWhile_eq_self (h : ∀ name ∈ names, c.isProcessed name = false) :
    names.dropWhile c.isProcessed = names := by
  cases names with
  | nil => rfl
  | cons name rest => exact List.dropWhile_cons_of_neg (by simp [h])

/-- A queue that is listed now is fresh, and one that was kept is if it was. -/
theorem Fresh.queue (h : Fresh c (.directory path pending)) (hq : Queue path c d pending names) :
    Fresh c (.directory path (some names)) := by
  rcases hq with rfl | ⟨rfl, found, hl, rfl⟩
  · exact h
  · obtain ⟨-, rfl⟩ := list_ok hl
    refine .listed path ((nodup_wanted ..).sublist List.filter_sublist) fun name hname => ?_
    simpa using (List.mem_filter.1 hname).2

/-- Nothing is dropped from a fresh queue. -/
theorem Fresh.dropWhile (h : Fresh c (.directory path (some names)))
    (hrest : names.dropWhile c.isProcessed = rest) :
    Fresh c (.directory path (some rest)) := by
  cases h with
  | listed _ nodup left =>
    obtain rfl := (dropWhile_eq_self left).symm.trans hrest
    exact .listed path nodup left

theorem Fresh.infers {result : Except Failure (Option (List String))} (hsrc : Fresh c src)
    (h : Infers c d src result src') : Fresh c src' := by
  cases h with
  | unlisted => exact hsrc
  | unread queue => exact hsrc.queue queue
  | read queue => exact hsrc.queue queue

theorem Fresh.follows {result : Except Failure (Option InputBatch)} (hsrc : Fresh c src)
    (h : Follows c d src result src') : Fresh c src' := by
  cases h with
  | memoryEnd | memory => cases hsrc
  | unlisted => exact hsrc
  | finished queue processed => exact (hsrc.queue queue).dropWhile processed
  | unread queue first => exact (hsrc.queue queue).dropWhile first
  | read queue first => exact (hsrc.queue queue).dropWhile first

/-- Committing the batch given last leaves one committed file in the queue, the first; it goes
when the next batch is given. -/
theorem Fresh.commit {src'' : Source} (hsrc : Fresh c src)
    (h : Follows c d src (.ok (some batch)) src')
    (h' : Follows (c.commit id batch.source time) d src' (.ok given) src'') :
    Fresh (c.commit id batch.source time) src'' := by
  have hsrc' := hsrc.follows h
  cases h with
  | memory => cases hsrc
  | @read path _ _ rest name _ _ _ _ =>
  cases hsrc' with
  | listed _ nodup left =>
  have hname : (c.commit id name time).isProcessed name = true :=
    (Checkpoint.isProcessed_commit ..).2 (.inl rfl)
  have hrest : Fresh (c.commit id name time) (.directory path (some rest)) := by
    refine .listed path nodup.of_cons fun other hother => Bool.eq_false_iff.2 fun hc => ?_
    rcases (Checkpoint.isProcessed_commit ..).1 hc with rfl | hc
    · exact (List.nodup_cons.1 nodup).1 hother
    · exact Bool.eq_false_iff.1 (left other (List.mem_cons_of_mem _ hother)) hc
  cases h' with
  | finished queue processed =>
    obtain rfl := queue.eq
    exact hrest.dropWhile (List.dropWhile_cons_of_pos hname ▸ processed)
  | read queue first =>
    obtain rfl := queue.eq
    exact hrest.dropWhile (List.dropWhile_cons_of_pos hname ▸ first)

/-! ## Histories -/

/-- What a directory can come to by batches and columns that are asked for, where each commit is
of the batch given last and is followed by the next batch. -/
inductive Reached (d : Disk) (path : Path) : Checkpoint → Source → Prop
  | opened (c : Checkpoint) : Reached d path c (.directory path none)
  | asked {c : Checkpoint} {src src' : Source} {result : Except Failure (Option InputBatch)}
    (hr : Reached d path c src) (h : Follows c d src result src') : Reached d path c src'
  | inferred {c : Checkpoint} {src src' : Source}
    {result : Except Failure (Option (List String))} (hr : Reached d path c src)
    (h : Infers c d src result src') : Reached d path c src'
  | committed {c : Checkpoint} {src src' src'' : Source} {batch : InputBatch}
    {given : Option InputBatch} (id : Nat) (time : Instant) (hr : Reached d path c src)
    (h : Follows c d src (.ok (some batch)) src')
    (h' : Follows (c.commit id batch.source time) d src' (.ok given) src'') :
    Reached d path (c.commit id batch.source time) src''

theorem Reached.fresh (h : Reached d path c src) : Fresh c src := by
  induction h with
  | opened => exact .unlisted path
  | asked _ h ih => exact ih.follows h
  | inferred _ h ih => exact ih.infers h
  | committed _ _ _ h h' ih => exact ih.commit h h'

/-- Columns inferred from a fresh queue are those of the record that is served next. -/
theorem Fresh.columns {columns : Option (List String)} (hsrc : Fresh c src)
    (h : Infers c d src (.ok columns) src') : ∃ first, columns = first.map Record.columns ∧
      ∀ first', Serves d c src' first' ↔ first' = first := by
  have hsrc' := hsrc.infers h
  cases h with
  | @read path pending names first queue h =>
  cases hsrc' with
  | listed _ nodup left =>
  refine ⟨first, rfl, fun first' => ?_⟩
  rw [serves_iff nodup, uncommitted_eq_self left]
  exact ⟨h.unique, fun he => he ▸ h⟩

/-- Where batches and columns are asked for in turn, the columns that are inferred are those of
the record that is served next, and there are none only if no record is served. -/
theorem Reached.columns {columns : Option (List String)} {fates left : List Fate} {d' : Disk}
    (h : Reached d path c src)
    (hrun : (src.inferColumns c).runUnder s fates d = ⟨some (.ok columns, src'), left, d'⟩) :
    ∃ first, columns = first.map Record.columns ∧
      ∀ first', Serves d c src' first' ↔ first' = first := by
  have hsrc := h.fresh
  cases hsrc with
  | unlisted | listed => exact h.fresh.columns (infers_of_inferColumns hrun)

end Quarantine.Source
