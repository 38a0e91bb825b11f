import Quarantine.Proofs.Ascending
import Quarantine.Proofs.Lists
import Quarantine.Proofs.Storage.Job
import Quarantine.Proofs.Storage.Rows
import Quarantine.Storage.PartTable

/-!
# Tables of parts on a disk

    partId? (partName n)  = some n       (n below 2⁶⁴)
    writePart             replaces the file of the batch in one move, and does nothing for no rows
    discardUncommitted    removes what is of no use and leaves everything else
    readCommitted         gives the rows of the committed batches, in the order of the batches
-/

namespace Quarantine.PartTable

open Quarantine.Decimal Quarantine.Disk Quarantine.Job Quarantine.Json

/-! ## Names of parts -/

theorem toList_partName (id : Nat) : (partName id).toList =
    partBeginning.toList ++ paddedChars partDigits id ++ partEnding.toList := by
  simp [partName, toList_padded]

theorem length_paddedChars_le {id : Nat} (h : id ≤ 0x10000000000000000) :
    (paddedChars partDigits id).length ≤ 20 := by
  have hdigits : (Nat.toDigits 10 id).length ≤ 20 :=
    (Nat.length_toDigits_le_iff (by decide) (by decide)).2 (Nat.lt_of_le_of_lt h (by decide))
  rw [paddedChars, List.length_append, List.length_replicate, partDigits]
  omega

theorem mem_partName {id : Nat} {c : Char} (h : c ∈ (partName id).toList) :
    c ∈ partBeginning.toList ∨ c.isDigit = true ∨ c ∈ partEnding.toList := by
  rw [toList_partName] at h
  rcases List.mem_append.1 h with h | h
  · exact (List.mem_append.1 h).imp_right fun h => .inl (isDigit_of_mem_paddedChars h)
  · exact .inr (.inr h)

theorem slash_not_mem_partName (id : Nat) : '/' ∉ (partName id).toList := by
  intro h
  rcases mem_partName h with h | h | h
  · exact absurd h (by decide)
  · exact absurd h (by decide)
  · exact absurd h (by decide)

theorem head?_partName (id : Nat) : (partName id).toList.head? = some 'p' := by
  rw [toList_partName]
  rfl

theorem isName_partName (id : Nat) : Path.IsName (partName id) := by
  have hhead := head?_partName id
  refine ⟨fun he => ?_, slash_not_mem_partName id, fun he => ?_, fun he => ?_⟩
  · rw [he] at hhead
    cases hhead
  · rw [he] at hhead
    exact absurd hhead (by decide)
  · rw [he] at hhead
    exact absurd hhead (by decide)

theorem partName_injective {m n : Nat} (h : partName m = partName n) : m = n := by
  have hchars := congrArg String.toList h
  rw [toList_partName, toList_partName] at hchars
  exact paddedChars_injective (List.append_cancel_left (List.append_cancel_right hchars))

theorem utf8ByteSize_ofList_digits {cs : List Char} (h : ∀ c ∈ cs, c.isDigit = true) :
    (String.ofList cs).utf8ByteSize = cs.length := by
  induction cs with
  | nil => rfl
  | cons c cs ih =>
    have hc := h c List.mem_cons_self
    simp only [Char.isDigit, Bool.and_eq_true, decide_eq_true_eq, UInt32.le_iff_toNat_le] at hc
    have hsize : c.utf8Size = 1 := by
      refine Char.utf8Size_eq_one_iff.2 (UInt32.le_iff_toNat_le.2 ?_)
      exact Nat.le_trans hc.2 (by decide)
    rw [String.ofList_cons, String.utf8ByteSize_append, String.utf8ByteSize_singleton, hsize,
      ih fun d hd => h d (List.mem_cons_of_mem _ hd), List.length_cons, Nat.add_comm]

theorem utf8ByteSize_partName {id : Nat} (h : id ≤ 0x10000000000000000) :
    (partName id).utf8ByteSize ≤ 32 := by
  have hpadded : (Instant.padded partDigits id).utf8ByteSize ≤ 20 := by
    rw [← String.ofList_toList (s := Instant.padded partDigits id), toList_padded,
      utf8ByteSize_ofList_digits fun _ => isDigit_of_mem_paddedChars]
    exact length_paddedChars_le h
  have hbeginning : partBeginning.utf8ByteSize = 5 := by decide
  have hending : partEnding.utf8ByteSize = 7 := by decide
  rw [partName, String.utf8ByteSize_append, String.utf8ByteSize_append, hbeginning, hending]
  omega

/-! ### Extensions -/

theorem extensionOf_append {front extension : List Char} (hf : front ≠ [])
    (he : '.' ∉ extension) : Path.extensionOf (String.ofList (front ++ '.' :: extension)) =
      some (String.ofList extension) := by
  have hback : (front ++ '.' :: extension).reverse = extension.reverse ++ '.' :: front.reverse := by
    simp
  have htake : (extension.reverse ++ '.' :: front.reverse).takeWhile (· ≠ '.') =
      extension.reverse := by
    refine takeWhile_append_of_stopsAt (fun c hc => ?_) (stopsAt_cons _ rfl)
    refine decide_eq_true fun heq => he ?_
    exact heq ▸ List.mem_reverse.1 hc
  unfold Path.extensionOf
  rw [String.toList_ofList, hback]
  simp only [htake, List.drop_left, List.reverse_reverse]
  cases hr : front.reverse with
  | nil => exact absurd (List.reverse_eq_nil_iff.1 hr) hf
  | cons c cs => rfl

theorem extensionOf_partName (id : Nat) : Path.extensionOf (partName id) = some "ndjson" := by
  have hname : partName id = String.ofList
      ((partBeginning.toList ++ paddedChars partDigits id) ++ '.' :: "ndjson".toList) := by
    rw [← String.ofList_toList (s := partName id), toList_partName]
    rfl
  rw [hname, extensionOf_append (by simp [partBeginning]) (by decide), String.ofList_toList]

/-! ### Batches of names -/

theorem unsigned?_paddedChars (width id : Nat) :
    unsigned? (paddedChars width id) = if id < 0x10000000000000000 then some id else none := by
  have hdigits : digits? (paddedChars width id) = some id := by
    rw [digits?, List.isEmpty_eq_false_iff.2 (paddedChars_ne_nil width id)]
    exact (digitsValue?_eq (fun _ => isDigit_of_mem_paddedChars) 0).trans
      (congrArg some (ofDigitChars_paddedChars width id))
  have hplus : ∀ rest, paddedChars width id = '+' :: rest → False := by
    intro rest heq
    have := isDigit_of_mem_paddedChars (heq ▸ List.mem_cons_self)
    exact absurd this (by decide)
  rw [unsigned?, hdigits]
  · simp only [Option.filter_some, decide_eq_true_eq]
  · exact hplus

theorem partId?_partName_eq (id : Nat) :
    partId? (partName id) = if id < 0x10000000000000000 then some id else none := by
  rw [partId?, toList_partName, List.append_assoc, isPrefixOf?_append]
  show (partEnding.toList.isSuffixOf? (_ ++ partEnding.toList)).bind _ = _
  rw [isSuffixOf?_append]
  exact unsigned?_paddedChars partDigits id

/-- The name of a part gives its batch. -/
theorem partId?_partName {id : Nat} (h : id < 0x10000000000000000) :
    partId? (partName id) = some id := (partId?_partName_eq id).trans (if_pos h)

/-- The name of a part gives no other batch. -/
theorem eq_of_partId?_partName {n id : Nat} (h : partId? (partName n) = some id) : id = n := by
  rw [partId?_partName_eq] at h
  split at h
  · exact (Option.some.inj h).symm
  · cases h

/-! ### Names of no use -/

/-- The name of a part that is not complete. -/
def temporaryName (id : Nat) : String := partName id ++ Path.temporaryEnding

theorem toList_temporaryName (id : Nat) :
    (temporaryName id).toList = (partName id).toList ++ Path.temporaryEnding.toList := by
  rw [temporaryName, String.toList_append]

theorem temporaryName_injective {m n : Nat} (h : temporaryName m = temporaryName n) : m = n := by
  have hlist := congrArg String.toList h
  rw [toList_temporaryName, toList_temporaryName] at hlist
  exact partName_injective (String.toList_inj.1 (List.append_cancel_right hlist))

theorem isName_temporaryName (id : Nat) : Path.IsName (temporaryName id) := by
  have hextension : (Path.extensionOf (partName id)).isSome = true := by
    rw [extensionOf_partName]
    rfl
  rw [temporaryName, ← Path.unfinishedName_of_extension hextension]
  exact Path.isName_unfinishedName (isName_partName id)

theorem utf8ByteSize_temporaryName {id : Nat} (h : id ≤ 0x10000000000000000) :
    (temporaryName id).utf8ByteSize ≤ 36 := by
  have hname := utf8ByteSize_partName h
  have hending : Path.temporaryEnding.utf8ByteSize = 4 := by decide
  rw [temporaryName, String.utf8ByteSize_append, hending]
  omega

theorem getLast?_partName (id : Nat) : (partName id).toList.getLast? = some 'n' := by
  rw [toList_partName, List.getLast?_append]
  rfl

theorem partName_ne_temporaryName (m n : Nat) : partName m ≠ temporaryName n := by
  intro he
  have hlast := getLast?_partName m
  rw [he, toList_temporaryName, List.getLast?_append] at hlast
  have hchar : 'p' = 'n' := Option.some.inj hlast
  exact absurd hchar (by decide)

/-- That a name is one of files that are not complete. -/
def IsUnfinished (name : String) : Prop :=
  Path.temporaryEnding.toList.isSuffixOf name.toList = true

theorem isUnfinished_temporaryName (id : Nat) : IsUnfinished (temporaryName id) := by
  rw [IsUnfinished, toList_temporaryName]
  exact List.isSuffixOf_iff_suffix.2 (List.suffix_append _ _)

/-- A file that is not complete is no part of a batch. -/
theorem IsUnfinished.partId? {name : String} (h : IsUnfinished name) : partId? name = none := by
  obtain ⟨front, hname⟩ := List.isSuffixOf_iff_suffix.1 h
  refine Option.eq_none_iff_forall_ne_some.2 fun id hid => ?_
  -- the last character would be that of either ending
  rw [PartTable.partId?] at hid
  obtain ⟨rest, hrest, hid⟩ := Option.bind_eq_some_iff.1 hid
  obtain ⟨digits, hdigits, -⟩ := Option.bind_eq_some_iff.1 hid
  have hlast := congrArg List.getLast? (eq_append_of_isPrefixOf? hrest)
  rw [← hname, eq_append_of_isSuffixOf? hdigits, ← List.append_assoc, List.getLast?_append,
    List.getLast?_append] at hlast
  have hchar : 'p' = 'n' := Option.some.inj hlast
  exact absurd hchar (by decide)

theorem partId?_temporaryName (id : Nat) : partId? (temporaryName id) = none :=
  (isUnfinished_temporaryName id).partId?

theorem not_isUnfinished_partName (id : Nat) : ¬ IsUnfinished (partName id) := by
  intro h
  obtain ⟨front, hf⟩ := List.isSuffixOf_iff_suffix.1 h
  have hlast := getLast?_partName id
  rw [← hf, List.getLast?_append] at hlast
  have hchar : 'p' = 'n' := Option.some.inj hlast
  exact absurd hchar (by decide)

theorem isStale_iff {committed : Ascending Nat} {name : String} : isStale committed name = true ↔
    IsUnfinished name ∨ ∃ id, partId? name = some id ∧ committed.contains id = false := by
  rw [isStale, Bool.or_eq_true]
  refine or_congr_right ?_
  cases partId? name with
  | none => exact ⟨fun h => absurd h Bool.false_ne_true, fun ⟨id, h, _⟩ => by cases h⟩
  | some id =>
    rw [Option.any_some, Bool.not_eq_true']
    exact ⟨fun h => ⟨id, rfl, h⟩, fun ⟨i, hi, h⟩ => Option.some.inj hi ▸ h⟩

theorem isStale_partName {committed : Ascending Nat} {id : Nat} (h : id < 0x10000000000000000) :
    isStale committed (partName id) = !committed.contains id := by
  rw [isStale, Bool.eq_false_iff.2 (not_isUnfinished_partName id), partId?_partName h]
  rfl

theorem IsUnfinished.isStale {name : String} (h : IsUnfinished name) (committed : Ascending Nat) :
    isStale committed name = true := isStale_iff.2 (.inl h)

/-! ## Places of parts -/

theorem place_partPath (t : PartTable) (id : Nat) :
    (t.partPath id).place = t.directory.place ++ [partName id] :=
  Path.place_join _ (isName_partName id)

theorem temporary_partPath (t : PartTable) (id : Nat) :
    (t.partPath id).temporary = t.directory.join (temporaryName id) :=
  Path.temporary_join _ (isName_partName id) (by rw [extensionOf_partName]; rfl)

theorem place_temporary (t : PartTable) (id : Nat) :
    (t.partPath id).temporary.place = t.directory.place ++ [temporaryName id] := by
  rw [temporary_partPath, Path.place_join _ (isName_temporaryName id)]

theorem place_temporary_ne (t : PartTable) (id : Nat) :
    (t.partPath id).temporary.place ≠ (t.partPath id).place :=
  Path.place_unfinished_ne t.directory (isName_partName id)

/-! ## Jobs -/

section

variable {s : Surroundings} {S : Disk → Prop} {d : Disk} {t : PartTable}

/-- A part is written after the directories on the way to it, beside its place first. -/
theorem ensures_writePart {p : Path} {name : String} (hn : Path.IsName name)
    (ht : t.directory = p.join name) {id : Nat} {rows : List Value}
    {Q : Option Path → Disk → Prop} (hnone : rows = [] → Q none d)
    (hs : rows ≠ [] → ∀ d₁ d', Grown t.directory.OnWay d d₁ →
      Partly (t.partPath id).temporary.place d₁ d' → S d')
    (hp : rows ≠ [] → ∀ d₁ d', Grown t.directory.OnWay d d₁ →
      Written (t.partPath id) (Rows.render rows).toUTF8 d₁ d' →
        Q (some (t.partPath id)) d') :
    Job.Ensures s S Q (t.writePart id rows) d := by
  unfold writePart
  cases rows with
  | nil => exact ensures_pure (hnone rfl)
  | cons row rows =>
    have hne : row :: rows ≠ [] := List.cons_ne_nil _ _
    have hgrown {d₁ : Disk} (h : Grown t.directory.OnWay d d₁) : S d₁ :=
      hs hne d₁ d₁ h (.refl _ d₁)
    have hmake : Job.Ensures s S (fun _ d₁ => Grown t.directory.OnWay d d₁)
        (ensureDirectory t.directory) d := by
      rw [ht] at hgrown ⊢
      exact ensures_ensureDirectory hn (fun d₁ => hgrown) fun d₁ h _ => h
    refine hmake.bind fun _ d₁ h₁ => ?_
    refine (ensures_writeWhole (Q := fun _ d' => Q (some (t.partPath id)) d')
      (place_temporary_ne t id) (fun d' h => hs hne d₁ d' h₁ h)
      fun d' h => hp hne d₁ d' h₁ h).bind fun _ d' h => ensures_pure h

/-- The names in a table: those of its directory, and none without one. -/
theorem ensures_names {Q : List String → Disk → Prop} (hs : S d)
    (hthere : d.HasDirectory t.directory →
      Q ((d.children t.directory.place).map Prod.fst) d)
    (hnone : (∀ k, d.inspect t.directory ≠ .ok k) → Q [] d) :
    Job.Ensures s S Q t.names d := by
  refine (ensures_exists? (Q := fun b d' => d' = d ∧
    b = (d.inspect t.directory).toOption.isSome) hs ⟨rfl, rfl⟩).bind ?_
  rintro b d' ⟨rfl, rfl⟩
  cases hi : d'.inspect t.directory with
  | error e => exact ensures_pure (hnone fun k h => by rw [hi] at h; cases h)
  | ok k =>
    refine (ensures_ask (o := .list t.directory) (Q := fun found d₁ => d₁ = d' ∧
      d'.list t.directory = .ok found) hs (fun r h => ⟨rfl, h⟩) (fun _ _ => hs)
      fun _ => hs).bind ?_
    rintro found d₁ ⟨rfl, hl⟩
    obtain ⟨hd, rfl⟩ := list_ok hl
    exact ensures_pure (hthere hd)

/-- That a disk has lost files at some places, and nothing else changed. -/
def Pruned (at_ : Place → Prop) (d d' : Disk) : Prop :=
  ∀ pl, d'.get? pl = d.get? pl ∨
    at_ pl ∧ (∃ content, d.get? pl = some (.file content)) ∧ d'.get? pl = none

theorem Pruned.refl (at_ : Place → Prop) (d : Disk) : Pruned at_ d d := fun _ => .inl rfl

theorem Pruned.trans {at_ : Place → Prop} {d d' d'' : Disk} (h : Pruned at_ d d')
    (h' : Pruned at_ d' d'') : Pruned at_ d d'' := by
  intro pl
  rcases h' pl with he' | ⟨ha, ⟨content, hc⟩, hn⟩
  · rw [he']
    exact h pl
  · rcases h pl with he | ⟨-, -, hn'⟩
    · exact .inr ⟨ha, ⟨content, he ▸ hc⟩, hn⟩
    · rw [hn'] at hc
      cases hc

theorem Pruned.keepsDirectories {at_ : Place → Prop} {d d' : Disk} (h : Pruned at_ d d') :
    KeepsDirectories d d' := by
  intro pl hpl
  rcases h pl with he | ⟨-, ⟨content, hc⟩, -⟩
  · rw [he, hpl]
  · rw [hpl] at hc
    cases hc

/-- What was gone stays gone. -/
theorem Pruned.none {at_ : Place → Prop} {d d' : Disk} (h : Pruned at_ d d') {pl : Place}
    (hn : d.get? pl = none) : d'.get? pl = none := by
  rcases h pl with he | ⟨-, -, hn'⟩
  · rw [he, hn]
  · exact hn'

theorem pruned_erase {at_ : Place → Prop} {d : Disk} {pl : Place} {content : ByteArray}
    (h : d.get? pl = some (.file content)) (ha : at_ pl) : Pruned at_ d (d.erase pl) := by
  intro other
  rw [get?_erase (ne_nil_of_file h)]
  by_cases he : other = pl
  · subst he
    rw [if_pos rfl]
    exact .inr ⟨ha, ⟨content, h⟩, rfl⟩
  · rw [if_neg he]
    exact .inl rfl

theorem ensures_removeAll {names : List String} {Q : Unit → Disk → Prop}
    {at_ : Place → Prop} (hat : ∀ name ∈ names, at_ (t.directory.join name).place)
    (hs : ∀ d', Pruned at_ d d' → S d')
    (hp : ∀ d', Pruned at_ d d' →
      (∀ name ∈ names, d'.get? (t.directory.join name).place = none) → Q () d') :
    Job.Ensures s S Q
      (names.forM fun name => Job.ask (.remove (t.directory.join name))) d := by
  induction names generalizing d Q with
  | nil => exact ensures_pure (hp d (.refl at_ d) fun p h => absurd h List.not_mem_nil)
  | cons name rest ih =>
    have hd := hs d (.refl at_ d)
    refine (ensures_change (o := .remove (t.directory.join name)) (Q := fun _ d₁ =>
      Pruned at_ d d₁ ∧ d₁.get? (t.directory.join name).place = none) change_ok change_error hd
      (fun _ => hd) fun _ d₁ h => ?_).bind ?_
    · obtain ⟨⟨content, hc⟩, rfl⟩ := remove_ok h
      refine ⟨pruned_erase hc (hat name List.mem_cons_self), ?_⟩
      rw [get?_erase (ne_nil_of_file hc), if_pos rfl]
    · rintro _ d₁ ⟨h₁, hgone⟩
      refine ih (fun other ho => hat other (List.mem_cons_of_mem _ ho))
        (fun d' h => hs d' (h₁.trans h)) fun d' h hrest => hp d' (h₁.trans h) fun other ho => ?_
      rcases List.mem_cons.1 ho with rfl | ho
      · exact h.none hgone
      · exact hrest other ho

/-- That a name in the directory of a table is of no use. -/
def Discarded (t : PartTable) (committed : Ascending Nat) (d : Disk) (name : String) : Prop :=
  isStale committed name = true ∧ name ∈ (d.children t.directory.place).map Prod.fst

/-- What is of no use is removed, and nothing else; at the end all of it is gone. -/
theorem ensures_discardUncommitted {committed : Ascending Nat} {Q : Nat → Disk → Prop}
    (at_ : Place → Prop)
    (hat : ∀ name, t.Discarded committed d name → at_ (t.directory.join name).place)
    (hs : ∀ d', Pruned at_ d d' → S d')
    (hp : ∀ n d', Pruned at_ d d' → (d.HasDirectory t.directory →
      ∀ name, t.Discarded committed d name → d'.get? (t.directory.join name).place = none) →
      Q n d') : Job.Ensures s S Q (t.discardUncommitted committed) d := by
  have hd := hs d (.refl at_ d)
  refine (ensures_names (Q := fun names d' => d' = d ∧
    (∀ name ∈ names, name ∈ (d.children t.directory.place).map Prod.fst) ∧
    (d.HasDirectory t.directory → names = (d.children t.directory.place).map Prod.fst)) hd
    (fun _ => ⟨rfl, fun _ h => h, fun _ => rfl⟩) fun hnone => ⟨rfl, fun _ h =>
      absurd h List.not_mem_nil, fun h => absurd (hasDirectory_iff.1 h) (hnone _)⟩).bind ?_
  rintro names d₀ ⟨rfl, hnames, hall⟩
  have hstale : ∀ name ∈ names.filter (isStale committed), t.Discarded committed d₀ name := by
    intro name hm
    obtain ⟨hm, hst⟩ := List.mem_filter.1 hm
    exact ⟨hst, hnames name hm⟩
  refine (ensures_removeAll (Q := fun _ d' => Pruned at_ d₀ d' ∧
    ∀ name ∈ names.filter (isStale committed), d'.get? (t.directory.join name).place = none)
    (fun name hm => hat name (hstale name hm)) hs fun d' h hg => ⟨h, hg⟩).bind ?_
  rintro _ d' ⟨hpruned, hgone⟩
  refine ensures_pure (hp _ d' hpruned fun hdir name hm => hgone name ?_)
  exact List.mem_filter.2 ⟨hall hdir ▸ hm.2, hm.1⟩

/-! ### Reading -/

/-- The names in a table on a disk: those of its directory, and none without one. -/
def Names (t : PartTable) (d : Disk) (names : List String) : Prop :=
  d.HasDirectory t.directory ∧ names = (d.children t.directory.place).map Prod.fst ∨
    (∀ k, d.inspect t.directory ≠ .ok k) ∧ names = []

/-- The rows that the file of a part holds. -/
def rowsIn {α : Type} (t : PartTable) (parse? : String → Option α) (d : Disk) (id : Nat) :
    Except Failure (List α) :=
  match d.read (t.partPath id) with
  | .ok content => Rows.ofBytes (t.partPath id) (Rows.decoded parse?) content
  | .error e => .error (.io e)

/-- That rows are those of the committed parts on a disk, in the order of the batches. -/
def Shows {α : Type} (t : PartTable) (parse? : String → Option α) (committed : Ascending Nat)
    (d : Disk) (rows : List α) : Prop :=
  ∃ (names : List String) (ids : List Nat) (part : Nat → List α),
    t.Names d names ∧ ids.Pairwise (· < ·) ∧
    (∀ id, id ∈ ids ↔ committed.contains id = true ∧ ∃ name ∈ names, partId? name = some id) ∧
    (∀ id ∈ ids, t.rowsIn parse? d id = .ok (part id)) ∧ rows = ids.flatMap part

section

variable {α : Type} {parse? : String → Option α} {committed : Ascending Nat}

/-- The rows of a part are those that its file holds. -/
theorem ensures_readPart {id : Nat} {Q : List α → Disk → Prop} (hs : S d)
    (hp : ∀ rows, t.rowsIn parse? d id = .ok rows → Q rows d) :
    Job.Ensures s S Q (t.readPart parse? id) d := by
  refine (ensures_ask (o := .read (t.partPath id)) (Q := fun c d' => d' = d ∧
    d.read (t.partPath id) = .ok c) hs (fun r h => ⟨rfl, h⟩) (fun _ _ => hs) fun _ => hs).bind ?_
  rintro content d' ⟨rfl, hread⟩
  refine ensures_liftExcept hs fun rows hrows => hp rows ?_
  rw [rowsIn, hread]
  exact hrows

theorem ensures_readParts {ids : List Nat} {Q : List (List α) → Disk → Prop} (hs : S d)
    (hp : ∀ part, (∀ id ∈ ids, t.rowsIn parse? d id = .ok (part id)) → Q (ids.map part) d) :
    Job.Ensures s S Q (ids.mapM (t.readPart parse?)) d := by
  -- a part that cannot be read counts as empty until then
  suffices h : ∀ ids : List Nat, Job.Ensures s S (fun xss d' => d' = d ∧
      xss = ids.map (fun id => (t.rowsIn parse? d id).toOption.getD []) ∧
      ∀ id ∈ ids, t.rowsIn parse? d id = .ok ((t.rowsIn parse? d id).toOption.getD []))
      (ids.mapM (t.readPart parse?)) d by
    refine (h ids).mono (fun _ h => h) ?_
    rintro xss d' ⟨rfl, rfl, hall⟩
    exact hp _ hall
  intro ids
  induction ids with
  | nil => exact ensures_pure ⟨rfl, rfl, fun id h => absurd h List.not_mem_nil⟩
  | cons id rest ih =>
    rw [List.mapM_cons]
    refine (ensures_readPart (Q := fun rows d' => d' = d ∧ t.rowsIn parse? d id = .ok rows) hs
      fun rows h => ⟨rfl, h⟩).bind ?_
    rintro rows d' ⟨rfl, hrows⟩
    refine ih.bind ?_
    rintro xss d₁ ⟨rfl, rfl, hall⟩
    refine ensures_pure ⟨rfl, ?_, fun i hi => ?_⟩
    · rw [List.map_cons, hrows]
      rfl
    · rcases List.mem_cons.1 hi with rfl | hi
      · rw [hrows]
        rfl
      · exact hall i hi

/-- The rows of the committed batches are read as the disk shows them. -/
theorem ensures_readCommitted_shows {Q : List α → Disk → Prop} (hs : S d)
    (hp : ∀ rows, t.Shows parse? committed d rows → Q rows d) :
    Job.Ensures s S Q (t.readCommitted parse? committed) d := by
  have hparts : Job.Ensures s S (fun found d' => d' = d ∧ ∃ names, t.Names d names ∧
      found = .ofList (names.filterMap partId?)) t.partIds d := by
    refine (ensures_names (Q := fun names d' => d' = d ∧ t.Names d names) hs
      (fun hdir => ⟨rfl, .inl ⟨hdir, rfl⟩⟩) fun hnone => ⟨rfl, .inr ⟨hnone, rfl⟩⟩).bind ?_
    rintro names d' ⟨rfl, hnames⟩
    exact ensures_pure ⟨rfl, names, hnames, rfl⟩
  refine hparts.bind ?_
  rintro found d' ⟨rfl, names, hnames, rfl⟩
  refine (ensures_readParts (Q := fun xss d₁ => d₁ = d' ∧ ∃ part, (∀ id ∈ (Ascending.filter
    committed.contains (.ofList (names.filterMap partId?))).items,
      t.rowsIn parse? d' id = .ok (part id)) ∧ xss = (Ascending.filter
    committed.contains (.ofList (names.filterMap partId?))).items.map part) hs
    fun part h => ⟨rfl, part, h, rfl⟩).bind ?_
  rintro xss d₁ ⟨rfl, part, hread, rfl⟩
  refine ensures_pure (hp _ ⟨names, _, part, hnames, Ascending.ascends _, fun id => ?_, hread,
    List.flatMap_def.symm⟩)
  rw [← Ascending.contains_iff, Ascending.contains_filter, Ascending.contains_ofList,
    List.mem_filterMap, and_comm]

theorem Names.unique {names names' : List String} (h : t.Names d names) (h' : t.Names d names') :
    names = names' := by
  rcases h with ⟨hdir, rfl⟩ | ⟨hnone, rfl⟩
  · rcases h' with ⟨-, rfl⟩ | ⟨hnone', -⟩
    · rfl
    · exact absurd (hasDirectory_iff.1 hdir) (hnone' _)
  · rcases h' with ⟨hdir', -⟩ | ⟨-, rfl⟩
    · exact absurd (hasDirectory_iff.1 hdir') (hnone _)
    · rfl

theorem Shows.unique {rows rows' : List α} (h : t.Shows parse? committed d rows)
    (h' : t.Shows parse? committed d rows') : rows = rows' := by
  obtain ⟨names, ids, part, hnames, hids, hmem, hpart, rfl⟩ := h
  obtain ⟨names', ids', part', hnames', hids', hmem', hpart', rfl⟩ := h'
  obtain rfl := hnames.unique hnames'
  obtain rfl : ids = ids' :=
    Ascending.eq_of_pairwise hids hids' fun id => (hmem id).trans (hmem' id).symm
  rw [List.flatMap_def, List.flatMap_def]
  refine congrArg List.flatten (List.map_congr_left fun id hid => ?_)
  exact Except.ok.inj ((hpart id hid).symm.trans (hpart' id hid))

/-- What a table shows is read, whatever the fate. -/
theorem Shows.ensures {rows : List α} (h : t.Shows parse? committed d rows)
    {Q : List α → Disk → Prop} (hs : S d) (hp : Q rows d) :
    Job.Ensures s S Q (t.readCommitted parse? committed) d := by
  refine ensures_readCommitted_shows hs fun rows' h' => ?_
  rw [h'.unique h]
  exact hp

/-- A row that is shown is in the part of a committed batch. -/
theorem Shows.exists_part {rows : List α} (h : t.Shows parse? committed d rows) {row : α}
    (hrow : row ∈ rows) : ∃ id part, committed.contains id = true ∧
      t.rowsIn parse? d id = .ok part ∧ row ∈ part := by
  obtain ⟨names, ids, part, -, -, hmem, hpart, rfl⟩ := h
  obtain ⟨id, hid, hrow⟩ := List.mem_flatMap.1 hrow
  exact ⟨id, part id, ((hmem id).1 hid).1, hpart id hid, hrow⟩

/-- A row in the part of a committed batch is shown. -/
theorem Shows.mem {rows : List α} (h : t.Shows parse? committed d rows)
    (hdir : d.HasDirectory t.directory) {id : Nat} (hid : committed.contains id = true)
    (h64 : id < 0x10000000000000000) {part : List α} (hpart : t.rowsIn parse? d id = .ok part)
    {row : α} (hrow : row ∈ part) : row ∈ rows := by
  obtain ⟨names, ids, part', hnames, -, hmem, hpart', rfl⟩ := h
  have hthere : partName id ∈ names := by
    rcases hnames with ⟨-, rfl⟩ | ⟨hnone, -⟩
    · have hread := hpart
      rw [rowsIn] at hread
      cases hr : d.read (t.partPath id) with
      | error e =>
        rw [hr] at hread
        cases hread
      | ok content =>
        obtain ⟨-, hg⟩ := read_ok_iff.1 hr
        rw [place_partPath] at hg
        exact mem_children_iff.2 ⟨_, hg⟩
    · exact absurd (hasDirectory_iff.1 hdir) (hnone _)
  have hid : id ∈ ids := (hmem id).2 ⟨hid, partName id, hthere, partId?_partName h64⟩
  have hsame := hpart' id hid
  rw [hpart] at hsame
  obtain rfl := Except.ok.inj hsame
  exact List.mem_flatMap.2 ⟨id, hid, hrow⟩

end

end

end Quarantine.PartTable
