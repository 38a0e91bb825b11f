import Quarantine.Proofs.Storage.Success
import Quarantine.Storage.Source

/-!
# What a source gives

A source changes no disk.  From a directory it gives the records of the first file in its queue
that is not committed, and keeps that file in the queue; where reading fails, the queue is kept.

    next c src  follows  src ⟶ (batch, src')    under every fate
    run_next    the batch that it is, if nothing is refused
-/

namespace Quarantine.Source

open Quarantine.Disk Quarantine.Job

/-- That a file holds records. -/
def FileHolds (d : Disk) (file : Path) (records : List Record) : Prop :=
  ∃ content text, d.read file = .ok content ∧ String.fromUTF8? content = some text ∧
    Rows.records file text = .ok records

/-- The names of the input files among those found in a directory. -/
def wanted (found : List (String × Kind)) : List String :=
  (found.filter fun (name, kind) => isInput name kind).map Prod.fst

/-- The queue of a directory: as it was kept, or as the directory is listed now. -/
def Queue (path : Path) (c : Checkpoint) (d : Disk) (pending : Option (List String))
    (names : List String) : Prop :=
  pending = some names ∨ pending = none ∧ ∃ found, d.list path = .ok found ∧
    names = (wanted found).filter fun name => !c.isProcessed name

/-- What a source can give, and what is left of it then. -/
inductive Follows (c : Checkpoint) (d : Disk) :
    Source → Except Failure (Option InputBatch) → Source → Prop
  | memoryEnd (served : Nat) : Follows c d (.memory [] served) (.ok none) (.memory [] served)
  | memory (records : List Record) (rest : List (List Record)) (served : Nat) :
    Follows c d (.memory (records :: rest) served)
      (.ok (some ⟨"memory-" ++ toString served, records⟩)) (.memory rest (served + 1))
  | unlisted (path : Path) (pending : Option (List String)) (e : Failure) :
    Follows c d (.directory path pending) (.error e) (.directory path pending)
  | finished {path : Path} {pending : Option (List String)} {names : List String}
    (queue : Queue path c d pending names) (processed : names.dropWhile c.isProcessed = []) :
    Follows c d (.directory path pending) (.ok none) (.directory path (some []))
  | unread {path : Path} {pending : Option (List String)} {names rest : List String}
    {name : String} (queue : Queue path c d pending names)
    (first : names.dropWhile c.isProcessed = name :: rest) (e : Failure) :
    Follows c d (.directory path pending) (.error e) (.directory path (some (name :: rest)))
  | read {path : Path} {pending : Option (List String)} {names rest : List String}
    {name : String} {records : List Record} (queue : Queue path c d pending names)
    (first : names.dropWhile c.isProcessed = name :: rest)
    (holds : FileHolds d (path.join name) records) :
    Follows c d (.directory path pending) (.ok (some ⟨name, records⟩))
      (.directory path (some (name :: rest)))

section

variable {s : Surroundings} {S : Disk → Prop} {d : Disk} {c : Checkpoint}

theorem ensures_readInput (path : Path) (name : String) {Q : List Record → Disk → Prop}
    (hs : S d) (hp : ∀ records, FileHolds d (path.join name) records → Q records d) :
    Job.Ensures s S Q (readInput path name) d := by
  refine (Job.ensures_readText (Q := fun text d' => d' = d ∧
    ∃ content, d.read (path.join name) = .ok content ∧ String.fromUTF8? content = some text) hs
    fun content text hc ht => ⟨rfl, content, hc, ht⟩).bind ?_
  rintro text d' ⟨rfl, content, hc, ht⟩
  exact Job.ensures_liftExcept hs fun records hr => hp records ⟨content, text, hc, ht, hr⟩

theorem ensures_queue (path : Path) (pending : Option (List String))
    {Q : List String → Disk → Prop} (hs : S d)
    (hp : ∀ names, Queue path c d pending names → Q names d) :
    Job.Ensures s S Q (queue path c pending) d := by
  cases pending with
  | some names => exact Job.ensures_pure (hp names (.inl rfl))
  | none =>
    refine (Job.ensures_ask (o := .list path) (Q := fun found d' => d' = d ∧
      d.list path = .ok found) hs (fun r h => ⟨rfl, h⟩) (fun _ _ => hs) fun _ => hs).bind ?_
    rintro found d' ⟨rfl, hf⟩
    exact Job.ensures_pure (hp _ (.inr ⟨rfl, found, hf, rfl⟩))

/-- A source gives what it may, whatever the fates, and changes no disk. -/
theorem ensures_next {src : Source}
    {Q : Except Failure (Option InputBatch) × Source → Disk → Prop} (hs : S d)
    (hp : ∀ result src', Follows c d src result src' → Q (result, src') d) :
    (src.next c).Ensures s S Q d := by
  cases src with
  | memory batches served =>
    cases batches with
    | nil => exact Action.ensures_pure (hp _ _ (.memoryEnd served))
    | cons records rest => exact Action.ensures_pure (hp _ _ (.memory records rest served))
  | directory path pending =>
    have hqueue : Job.Ensures s (· = d) (fun names d' => d' = d ∧ Queue path c d pending names)
        (queue path c pending) d := ensures_queue path pending rfl fun names hq => ⟨rfl, hq⟩
    refine (hqueue.action hs).bind ?_
    rintro (e | names) d' ⟨rfl, hq⟩
    · exact Action.ensures_pure (hp _ _ (.unlisted path pending e))
    · replace hq := hq names rfl
      cases hrest : names.dropWhile c.isProcessed with
      | nil =>
        simp only [hrest]
        exact Action.ensures_pure (hp _ _ (.finished hq hrest))
      | cons name rest =>
        simp only [hrest]
        have hread : Job.Ensures s (· = d')
            (fun records d'' => d'' = d' ∧ FileHolds d' (path.join name) records)
            (readInput path name) d' := ensures_readInput path name rfl fun records h => ⟨rfl, h⟩
        refine (hread.action hs).bind ?_
        rintro (e | records) d'' ⟨rfl, hr⟩
        · exact Action.ensures_pure (hp _ _ (.unread hq hrest e))
        · exact Action.ensures_pure (hp _ _ (.read hq hrest (hr records rfl)))

/-! ## Queues -/

theorem pairwise_wanted (d : Disk) (pl : Place) :
    (wanted (d.children pl)).Pairwise (· < ·) :=
  (pairwise_children d pl).sublist (List.filter_sublist.map _)

theorem nodup_wanted (d : Disk) (pl : Place) : (wanted (d.children pl)).Nodup :=
  (pairwise_wanted d pl).imp fun hlt => Std.ne_of_lt hlt

theorem mem_wanted {pl : Place} {name : String} : name ∈ wanted (d.children pl) ↔
    ∃ node, d.get? (pl ++ [name]) = some node ∧ isInput name node.kind = true := by
  unfold wanted
  rw [List.mem_map]
  constructor
  · rintro ⟨⟨other, kind⟩, hm, rfl⟩
    obtain ⟨hm, hinput⟩ := List.mem_filter.1 hm
    obtain ⟨node, hg, rfl⟩ := mem_children.1 hm
    exact ⟨node, hg, hinput⟩
  · rintro ⟨node, hg, hinput⟩
    exact ⟨(name, node.kind), List.mem_filter.2 ⟨mem_children.2 ⟨node, hg, rfl⟩, hinput⟩, rfl⟩

/-- The same inputs are wanted where only what is no input came or went. -/
theorem wanted_eq_of_inputs {d' : Disk} {pl : Place} (h : ∀ name,
    d'.get? (pl ++ [name]) = d.get? (pl ++ [name]) ∨
      ∀ node, d'.get? (pl ++ [name]) = some node ∨ d.get? (pl ++ [name]) = some node →
        isInput name node.kind = false) :
    wanted (d'.children pl) = wanted (d.children pl) := by
  refine Ascending.eq_of_pairwise (pairwise_wanted d' pl) (pairwise_wanted d pl) fun name => ?_
  rw [mem_wanted, mem_wanted]
  rcases h name with he | hno
  · rw [he]
  · constructor
    · rintro ⟨node, hg, hinput⟩
      exact absurd hinput (Bool.eq_false_iff.1 (hno node (.inl hg)))
    · rintro ⟨node, hg, hinput⟩
      exact absurd hinput (Bool.eq_false_iff.1 (hno node (.inr hg)))

/-- A queue that was kept is as it was. -/
theorem Queue.eq {path : Path} {kept names : List String}
    (h : Queue path c d (some kept) names) : kept = names :=
  Option.some.inj (h.resolve_right fun h => by cases h.1)

/-- The first file that is left of a queue is not committed. -/
theorem not_processed_of_first {names rest : List String} {name : String}
    (h : names.dropWhile c.isProcessed = name :: rest) : c.isProcessed name = false := by
  have hfirst := List.head?_dropWhile_not c.isProcessed names
  rw [h] at hfirst
  exact hfirst

section

variable {names : List String} {p : String → Bool} {n : Nat}

theorem not_processed_of_mem_drop (hp : ∀ name, p name = true ↔ name ∈ names.take n)
    (hnodup : names.Nodup) {name : String} (h : name ∈ names.drop n) : p name = false := by
  refine Bool.eq_false_iff.2 fun htaken => ?_
  rw [← List.take_append_drop n names] at hnodup
  exact (List.nodup_append.1 hnodup).2.2 name ((hp name).1 htaken) name h rfl

/-- Where the first `n` names are processed, the rest of the queue is the names after them. -/
theorem dropWhile_processed (hp : ∀ name, p name = true ↔ name ∈ names.take n)
    (hnodup : names.Nodup) {j : Nat} (hj : j ≤ n) : (names.drop j).dropWhile p = names.drop n := by
  have hsplit : names.drop j = (names.take n).drop j ++ names.drop n := by
    have hdrop : (names.drop j).drop (n - j) = names.drop n := by
      rw [List.drop_drop, Nat.add_sub_cancel' hj]
    rw [List.drop_take, ← hdrop, List.take_append_drop]
  rw [hsplit, List.dropWhile_append_of_pos fun name hm => (hp name).2 (List.mem_of_mem_drop hm)]
  cases hrest : names.drop n with
  | nil => rfl
  | cons name rest =>
    have hname := not_processed_of_mem_drop hp hnodup (hrest ▸ List.mem_cons_self)
    rw [List.dropWhile_cons_of_neg (Bool.eq_false_iff.1 hname)]

theorem filter_processed (hp : ∀ name, p name = true ↔ name ∈ names.take n)
    (hnodup : names.Nodup) : (names.filter fun name => !p name) = names.drop n := by
  have htake : ((names.take n).filter fun name => !p name) = [] :=
    List.filter_eq_nil_iff.2 fun name hm => by rw [(hp name).2 hm]; decide
  have hdrop : ((names.drop n).filter fun name => !p name) = names.drop n :=
    List.filter_eq_self.2 fun name hm => by rw [not_processed_of_mem_drop hp hnodup hm]; rfl
  have hsplit : (names.filter fun name => !p name) =
      ((names.take n ++ names.drop n).filter fun name => !p name) := by
    rw [List.take_append_drop]
  rw [hsplit, List.filter_append, htake, hdrop, List.nil_append]

end

/-! ## Files -/

variable {d' : Disk} {file path : Path} {records records' : List Record}

theorem FileHolds.mono (h : FileHolds d file records)
    (hread : ∀ content, d.read file = .ok content → d'.read file = .ok content) :
    FileHolds d' file records := by
  obtain ⟨content, text, hc, ht, hr⟩ := h
  exact ⟨content, text, hread content hc, ht, hr⟩

theorem FileHolds.eq (h : FileHolds d file records) (h' : FileHolds d file records') :
    records' = records := by
  obtain ⟨content, text, hc, ht, hr⟩ := h
  obtain ⟨content', text', hc', ht', hr'⟩ := h'
  obtain rfl := Except.ok.inj (hc'.symm.trans hc)
  obtain rfl := Option.some.inj (ht'.symm.trans ht)
  exact Except.ok.inj (hr'.symm.trans hr)

theorem outcome_readInput {name : String} (h : FileHolds d (path.join name) records) :
    (readInput path name).outcome s d = (.ok records, d) := by
  obtain ⟨content, text, hc, ht, hr⟩ := h
  refine (outcome_bind_of_outcome (outcome_readText hc ht)).trans ?_
  rw [hr]
  rfl

/-! ## Without failures -/

variable {pending : Option (List String)} {names rest : List String} {name : String}

theorem run_next (hqueue : (queue path c pending).outcome s d = (.ok names, d))
    (first : names.dropWhile c.isProcessed = name :: rest)
    (holds : FileHolds d (path.join name) records) : (next c (.directory path pending)).run s d =
      ((.ok (some ⟨name, records⟩), .directory path (some (name :: rest))), d) := by
  have hrecords := outcome_readInput (s := s) holds
  unfold outcome at hqueue hrecords
  rw [next, Action.run_bind, hqueue]
  dsimp only
  rw [first]
  dsimp only
  rw [Action.run_bind, hrecords]
  rfl

theorem run_next_end (hqueue : (queue path c pending).outcome s d = (.ok names, d))
    (processed : names.dropWhile c.isProcessed = []) : (next c (.directory path pending)).run s d =
      ((.ok none, .directory path (some [])), d) := by
  unfold outcome at hqueue
  rw [next, Action.run_bind, hqueue]
  dsimp only
  rw [processed]
  rfl

end

end Quarantine.Source
