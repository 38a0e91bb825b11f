import Quarantine.Proofs.Ascending
import Quarantine.Proofs.Metrics.RoundTrip
import Quarantine.Proofs.Storage.Job
import Quarantine.Proofs.Storage.Rows
import Quarantine.Storage.Checkpoint

/-!
# Checkpoints on a disk

    parse? (render c) = some c                      (batches below 2⁶⁴)
    load  gives the checkpoint that the file holds, and the empty one without a file
    save  replaces the file in one move
-/

namespace Quarantine.Checkpoint

open Quarantine.Decimal Quarantine.Disk Quarantine.Job Quarantine.Json

/-! ## Read back -/

/-- The fields of a written checkpoint. -/
def fields (c : Checkpoint) : Fields :=
  [("committed_batches", .array (c.batches.items.map ofNat)),
    ("processed_inputs", ofStrings c.inputs.items),
    ("updated_at", c.updated.elim .null fun t => .string t.render)]

theorem fits_toValue (c : Checkpoint) : c.toValue.fits maxDepth = true := by
  have hbatches : fitsItems 125 (c.batches.items.map ofNat) = true := by
    refine fitsItems_iff.2 fun v hv => ?_
    obtain ⟨n, -, rfl⟩ := List.mem_map.1 hv
    rfl
  have hinputs : fitsItems 125 (c.inputs.items.map .string) = true := by
    refine fitsItems_iff.2 fun v hv => ?_
    obtain ⟨s, -, rfl⟩ := List.mem_map.1 hv
    rfl
  have hupdated : (c.updated.elim Value.null fun t => .string t.render).fits 126 = true := by
    cases c.updated <;> rfl
  show fitsFields 126 c.fields = true
  simp only [fields, fitsFields, hupdated, Bool.and_true, Bool.and_eq_true]
  exact ⟨hbatches, hinputs⟩

theorem instant?_updated (t : Option Instant) :
    instant? (t.elim .null fun t => .string t.render) = some t := by
  cases t with
  | none => rfl
  | some t =>
    show ((string? (.string t.render)).bind Instant.parse?).map some = _
    rw [string?, Option.bind_some, Instant.parse?_render, Option.map_some]

/-- A written checkpoint is read as that checkpoint, with the numbers as they are kept. -/
theorem parse?_render_kept (c : Checkpoint) :
    parse? c.render = some { c with batches := .ofList (c.batches.items.map keptCount) } := by
  have hnames : fieldNames = c.fields.names := rfl
  have hobject : c.toValue = .object c.fields := rfl
  have hread := readStructure?_renderIndented (hobject ▸ fits_toValue c)
  have hparts := parts?_object c.fields (hnames ▸ by decide)
  have hbatches : list? natural? (.array (c.batches.items.map ofNat)) =
      some (c.batches.items.map keptCount) := list?_map_map fun n _ => natural?_ofNat n
  rw [parse?, render, hobject, hnames, hread, Option.bind_some, ofValue?, hnames, hparts]
  simp only [fields, List.map_cons, List.map_nil, Option.elim_some, hbatches, list?_ofStrings,
    instant?_updated, Option.bind_eq_bind, Option.bind_some, Ascending.ofList_items,
    Option.pure_def]

/-- A checkpoint with numbers that are kept is read as it was written. -/
theorem parse?_render {c : Checkpoint}
    (h : ∀ n ∈ c.batches.items, n < 0x10000000000000000) : parse? c.render = some c := by
  have hkept : c.batches.items.map keptCount = c.batches.items :=
    (List.map_congr_left fun n hn => keptCount_of_lt (h n hn)).trans (List.map_id _)
  rw [parse?_render_kept, hkept, Ascending.ofList_items]

/-! ## Committed batches -/

/-- The checkpoint after the batches of some inputs, in their order. -/
def after (inputs : List String) (time : Instant) : Checkpoint where
  batches := .ofList (List.range inputs.length)
  inputs := .ofList inputs
  updated := if inputs.isEmpty then none else some time

theorem after_append (inputs : List String) (input : String) (time : Instant) :
    after (inputs ++ [input]) time = (after inputs time).commit inputs.length input time := by
  have hne : (inputs ++ [input]).isEmpty = false := by simp
  unfold after commit
  rw [hne, List.length_append, List.length_singleton, List.range_succ]
  simp [Ascending.ofList, List.foldl_append]

theorem isProcessed_after {inputs : List String} {time : Instant} {input : String} :
    (after inputs time).isProcessed input = true ↔ input ∈ inputs :=
  Ascending.contains_ofList input inputs

theorem contains_after {inputs : List String} {time : Instant} {batch : Nat} :
    (after inputs time).batches.contains batch = true ↔ batch < inputs.length := by
  rw [after, Ascending.contains_ofList, List.mem_range]

theorem items_batches_after (inputs : List String) (time : Instant) :
    (after inputs time).batches.items = List.range inputs.length :=
  Ascending.items_ofList List.pairwise_lt_range

theorem next_after (inputs : List String) (time : Instant) :
    (after inputs time).next = inputs.length := by
  rw [next, Ascending.last?, items_batches_after]
  cases inputs.length with
  | zero => rfl
  | succ n => rw [List.range_succ, List.getLast?_concat]; rfl

theorem last?_insert_of_le {s : Ascending Nat} {n : Nat}
    (h : ∀ m, s.contains m = true → m < n) : (s.insert n).last? = some n := by
  have hmem : (s.insert n).contains n = true := (Ascending.contains_insert n n s).2 (.inl rfl)
  cases hl : (s.insert n).last? with
  | none =>
    have hnil : (s.insert n).items = [] := List.getLast?_eq_none_iff.1 hl
    rw [Ascending.contains_iff, hnil] at hmem
    exact absurd hmem List.not_mem_nil
  | some last =>
    have hlast : (s.insert n).contains last = true :=
      Ascending.contains_iff.2 (List.mem_of_getLast? hl)
    rcases (Ascending.contains_insert last n s).1 hlast with rfl | hold
    · rfl
    · have hlt := h last hold
      rcases Ascending.eq_or_lt_of_last? hl hmem with rfl | hlt'
      · rfl
      · omega

/-- Each batch has the number after that of the batch before it. -/
theorem next_commit (c : Checkpoint) (input : String) (time : Instant) :
    (c.commit c.next input time).next = c.next + 1 := by
  show ((c.batches.insert c.next).last?.elim 0 (· + 1)) = _
  rw [last?_insert_of_le fun m => lt_next]
  rfl

/-! ## Files -/

/-- That a disk has a checkpoint: in the file of a path, or the empty one without a file. -/
def StoredAt (c : Checkpoint) (path : Path) (d : Disk) : Prop :=
  d.read path = .ok c.render.toUTF8 ∨ c = empty ∧ ∀ k, d.inspect path ≠ .ok k

/-- That a disk gives a checkpoint when it is loaded. -/
def FoundAt (c : Checkpoint) (path : Path) (d : Disk) : Prop :=
  (∃ content text, d.read path = .ok content ∧ String.fromUTF8? content = some text ∧
    parse? text = some c) ∨ c = empty ∧ ∀ k, d.inspect path ≠ .ok k

/-- A disk gives one checkpoint. -/
theorem FoundAt.unique {c c' : Checkpoint} {path : Path} {d : Disk} (h : c.FoundAt path d)
    (h' : c'.FoundAt path d) : c = c' := by
  have habsent {content : ByteArray} (hc : d.read path = .ok content)
      (hnone : ∀ k, d.inspect path ≠ .ok k) : c = c' := by
    obtain ⟨hl, hg⟩ := read_ok_iff.1 hc
    exact absurd (inspect_of_locate hl hg) (hnone _)
  rcases h with ⟨content, text, hc, ht, hp⟩ | ⟨rfl, hnone⟩
  · rcases h' with ⟨content', text', hc', ht', hp'⟩ | ⟨-, hnone⟩
    · obtain rfl := Except.ok.inj (hc.symm.trans hc')
      obtain rfl := Option.some.inj (ht.symm.trans ht')
      exact Option.some.inj (hp.symm.trans hp')
    · exact habsent hc hnone
  · rcases h' with ⟨content, -, hc, -⟩ | ⟨rfl, -⟩
    · exact habsent hc hnone
    · rfl

/-- A stored checkpoint is the one that a disk gives. -/
theorem StoredAt.foundAt {c : Checkpoint} {path : Path} {d : Disk} (h : c.StoredAt path d)
    (h64 : ∀ n ∈ c.batches.items, n < 0x10000000000000000) : c.FoundAt path d := by
  rcases h with hread | ⟨he, hnone⟩
  · exact .inl ⟨_, _, hread, Rows.fromUTF8?_toUTF8 _, parse?_render h64⟩
  · exact .inr ⟨he, hnone⟩

section

variable {s : Surroundings} {S : Disk → Prop} {d : Disk}

/-- A checkpoint is loaded as it was stored, if it is loaded. -/
theorem ensures_load {c : Checkpoint} {path : Path} (hc : c.StoredAt path d)
    (h64 : ∀ n ∈ c.batches.items, n < 0x10000000000000000) {Q : Checkpoint → Disk → Prop}
    (hs : S d) (hp : Q c d) : Job.Ensures s S Q (load path) d := by
  refine (ensures_exists? (Q := fun b d' => d' = d ∧ b = (d.inspect path).toOption.isSome) hs
    ⟨rfl, rfl⟩).bind ?_
  rintro b d' ⟨rfl, rfl⟩
  rcases hc with hread | ⟨rfl, hnone⟩
  · obtain ⟨hl, hg⟩ := read_ok_iff.1 hread
    rw [inspect_of_locate hl hg]
    refine (ensures_readText (Q := fun text d₁ => text = c.render ∧ d₁ = d') hs ?_).bind ?_
    · intro content text hcontent htext
      rw [hread] at hcontent
      obtain rfl := Except.ok.inj hcontent
      rw [Rows.fromUTF8?_toUTF8] at htext
      exact ⟨(Option.some.inj htext).symm, rfl⟩
    · rintro text d₁ ⟨rfl, rfl⟩
      rw [parse?_render h64]
      exact ensures_pure hp
  · cases hi : d'.inspect path with
    | ok k => exact absurd hi (hnone k)
    | error e => exact ensures_pure hp

/-- What is loaded is what the disk gives. -/
theorem ensures_load_found {path : Path} {Q : Checkpoint → Disk → Prop} (hs : S d)
    (hp : ∀ c, c.FoundAt path d → Q c d) : Job.Ensures s S Q (load path) d := by
  refine (ensures_exists? (Q := fun b d' => d' = d ∧ b = (d.inspect path).toOption.isSome) hs
    ⟨rfl, rfl⟩).bind ?_
  rintro b d' ⟨rfl, rfl⟩
  cases hi : d'.inspect path with
  | error e => exact ensures_pure (hp empty (.inr ⟨rfl, fun k hk => by rw [hi] at hk; cases hk⟩))
  | ok k =>
    refine (ensures_readText (Q := fun text d₁ => d₁ = d' ∧ ∃ content,
      d'.read path = .ok content ∧ String.fromUTF8? content = some text) hs
      fun content text hc ht => ⟨rfl, content, hc, ht⟩).bind ?_
    rintro text d₁ ⟨rfl, content, hc, ht⟩
    cases hparse : parse? text with
    | none => exact ensures_throw hs
    | some c => exact ensures_pure (hp c (.inl ⟨content, text, hc, ht, hparse⟩))

/-- A checkpoint is stored in one move, after directories on the way to it. -/
theorem ensures_save {c : Checkpoint} {root : Path} {name : String} (hn : Path.IsName name)
    (hne : (root.join name).temporary.place ≠ (root.join name).place)
    {Q : Unit → Disk → Prop}
    (hs : ∀ d₁ d', Grown root.OnWay d d₁ → Partly (root.join name).temporary.place d₁ d' →
      S d')
    (hp : ∀ d₁ d', Grown root.OnWay d d₁ → Written (root.join name) c.render.toUTF8 d₁ d' →
      Q () d') : Job.Ensures s S Q (c.save (root.join name)) d := by
  have hgrown {d₁ : Disk} (h : Grown root.OnWay d d₁) : S d₁ := hs d₁ d₁ h (.refl _ d₁)
  rw [save, Path.parents_join root hn]
  refine (ensures_makeDirectories root.OnWay (fun p => Path.onWay_of_mem_ancestors)
    (Q := fun _ d₁ => Grown root.OnWay d d₁) (fun d₁ => hgrown) fun d₁ h _ => h).bind ?_
  intro _ d₁ h₁
  exact ensures_writeWhole hne (fun d' h => hs d₁ d' h₁ h) fun d' h => hp d₁ d' h₁ h

end

end Quarantine.Checkpoint
