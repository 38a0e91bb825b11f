import Quarantine.Proofs.Fallible
import Quarantine.Proofs.Storage.Path
import Quarantine.Storage.Fault

/-!
# Disks after operations

A path that can be found is found at its place, and an operation that succeeds changes the node
at the place of its path and nothing else.  Directories are never removed or replaced, so a way
that is open stays open.

    find d p = ok (pl, n)  → pl = place p and get? d pl = n
    d ≤ respond d op       where d ≤ d' says that the directories of d are directories of d'
    (name, kind) ∈ children d pl ↔ get? d (pl ++ [name]) is of that kind

## Lemmas

- `get?_erase`, `get?_put`   one place changes
- `walk_mono`, `walk_snoc`   ways along directories
- `rename_ok` and others     what an operation that succeeded did
-/

namespace Quarantine

namespace Disk

/-! ## Nodes -/

theorem lookup_eq_some_iff {nodes : List (Place × Node)} (h : (nodes.map Prod.fst).Nodup)
    {pl : Place} {n : Node} : nodes.lookup pl = some n ↔ (pl, n) ∈ nodes := by
  induction nodes with
  | nil => simp
  | cons m rest ih =>
    obtain ⟨p, k⟩ := m
    obtain ⟨hp, hrest⟩ := List.nodup_cons.1 h
    rw [List.lookup_cons]
    by_cases hpl : pl = p
    · subst hpl
      rw [beq_self_eq_true]
      constructor
      · intro he
        obtain rfl := Option.some.inj he
        exact List.mem_cons_self
      · intro hm
        rcases List.mem_cons.1 hm with he | hm
        · rw [(Prod.mk.inj he).2]
        · exact absurd (List.mem_map_of_mem hm) hp
    · rw [beq_eq_false_iff_ne.2 hpl]
      show rest.lookup pl = some n ↔ _
      rw [ih hrest, List.mem_cons]
      constructor
      · exact .inr
      · rintro (he | hm)
        · exact absurd (Prod.mk.inj he).1 hpl
        · exact hm

theorem get?_nil (d : Disk) : d.get? [] = some .directory := if_pos rfl

theorem get?_eq_some_iff {d : Disk} {pl : Place} (h : pl ≠ []) {n : Node} :
    d.get? pl = some n ↔ (pl, n) ∈ d.nodes := by
  rw [get?, if_neg h, lookup_eq_some_iff d.distinct]

theorem ne_nil_of_get?_ne {d : Disk} {pl : Place} (h : d.get? pl ≠ some .directory) : pl ≠ [] :=
  fun he => h (he ▸ get?_nil d)

theorem get?_erase {d : Disk} {pl : Place} (h : pl ≠ []) (other : Place) :
    (d.erase pl).get? other = if other = pl then none else d.get? other := by
  by_cases ho : other = []
  · subst ho
    rw [if_neg (Ne.symm h), get?_nil, get?_nil]
  · by_cases he : other = pl
    · rw [if_pos he]
      cases hg : (d.erase pl).get? other with
      | none => rfl
      | some n =>
        have hm := (get?_eq_some_iff ho).1 hg
        have := (List.mem_filter.1 hm).2
        simp [he] at this
    · rw [if_neg he]
      have hiff (n : Node) : (d.erase pl).get? other = some n ↔ d.get? other = some n := by
        rw [get?_eq_some_iff ho, get?_eq_some_iff ho]
        show (other, n) ∈ d.nodes.filter _ ↔ _
        rw [List.mem_filter]
        simp [he]
      cases hg : d.get? other with
      | none =>
        cases hg' : (d.erase pl).get? other with
        | none => rfl
        | some n => rw [(hiff n).1 hg'] at hg; exact absurd hg (by simp)
      | some n => exact (hiff n).2 hg

/-! ## Directories stay -/

/-- That the directories of one disk are directories of another. -/
def KeepsDirectories (d d' : Disk) : Prop :=
  ∀ pl, d.get? pl = some .directory → d'.get? pl = some .directory

theorem KeepsDirectories.refl (d : Disk) : KeepsDirectories d d := fun _ h => h

theorem KeepsDirectories.trans {d d' d'' : Disk} (h : KeepsDirectories d d')
    (h' : KeepsDirectories d' d'') : KeepsDirectories d d'' := fun pl hp => h' pl (h pl hp)

theorem keepsDirectories_put {d : Disk} {pl : Place} {n : Node}
    (h : d.get? pl ≠ some .directory) : KeepsDirectories d (d.put pl n) := by
  intro other ho
  rw [get?_put (ne_nil_of_get?_ne h), if_neg]
  · exact ho
  · rintro rfl
    exact h ho

theorem keepsDirectories_erase {d : Disk} {pl : Place} (h : d.get? pl ≠ some .directory) :
    KeepsDirectories d (d.erase pl) := by
  intro other ho
  rw [get?_erase (ne_nil_of_get?_ne h), if_neg]
  · exact ho
  · rintro rfl
    exact h ho

/-! ## Ways -/

theorem eq_resolve_of_walk {d : Disk} {start pl : Place} {ns : List String}
    (h : d.walk start ns = .ok pl) : pl = Path.resolve start ns := by
  induction ns generalizing start with
  | nil =>
    rw [walk] at h
    exact (Except.ok.inj h).symm
  | cons name rest ih =>
    rw [walk] at h
    rw [Path.resolve]
    split at h
    · next hup => rw [if_pos hup]; exact ih h
    · next hup =>
      rw [if_neg hup]
      split at h
      · exact absurd h (by simp)
      · split at h
        · next hempty =>
          rw [List.isEmpty_iff.1 hempty, Path.resolve]
          exact (Except.ok.inj h).symm
        · dsimp only at h
          split at h
          · exact ih h
          · exact absurd h (by simp)
          · exact absurd h (by simp)

theorem walk_mono {d d' : Disk} (hk : KeepsDirectories d d') {start pl : Place}
    {ns : List String} (h : d.walk start ns = .ok pl) : d'.walk start ns = .ok pl := by
  induction ns generalizing start with
  | nil => exact h
  | cons name rest ih =>
    rw [walk] at h ⊢
    split at h
    · next hup => rw [if_pos hup]; exact ih h
    · next hup =>
      rw [if_neg hup]
      split at h
      · exact absurd h (by simp)
      · next hlong =>
        rw [if_neg hlong]
        split at h
        · next hempty => rw [if_pos hempty]; exact h
        · next hempty =>
          rw [if_neg hempty]
          dsimp only at h ⊢
          split at h
          · next hdir =>
            simp only [hk _ hdir]
            exact ih h
          · exact absurd h (by simp)
          · exact absurd h (by simp)

/-- A name after names that lead to a directory is taken from there. -/
theorem walk_concat {d : Disk} {start pl : Place} {ns : List String} (name : String)
    (h : d.walk start ns = .ok pl) (hdir : d.get? pl = some .directory) :
    d.walk start (ns ++ [name]) = d.walk pl [name] := by
  induction ns generalizing start with
  | nil =>
    obtain rfl := Except.ok.inj h
    rfl
  | cons first rest ih =>
    rw [List.cons_append]
    rw [walk] at h ⊢
    split at h
    · next hfirst => rw [if_pos hfirst]; exact ih h
    · next hfirst =>
      rw [if_neg hfirst]
      split at h
      · exact absurd h (by simp)
      · next hl =>
        have hne : (rest ++ [name]).isEmpty = false := by simp
        simp only [if_neg hl, hne, Bool.false_eq_true, if_false]
        split at h
        · next hempty =>
          obtain rfl := Except.ok.inj h
          obtain rfl := List.isEmpty_iff.1 hempty
          simp only [hdir]
          exact ih rfl
        · dsimp only at h
          split at h
          · exact ih h
          · exact absurd h (by simp)
          · exact absurd h (by simp)

theorem walk_snoc {d : Disk} {start pl : Place} {ns : List String} {name : String}
    (h : d.walk start ns = .ok pl) (hdir : d.get? pl = some .directory) (hup : name ≠ "..")
    (hlong : name.utf8ByteSize ≤ longestName) : d.walk start (ns ++ [name]) = .ok (pl ++ [name]) := by
  rw [walk_concat name h hdir, walk, if_neg hup, if_neg (by omega)]
  rfl

theorem locate_eq_place {d : Disk} {p : Path} {pl : Place} (h : d.locate p = .ok pl) :
    pl = p.place := by
  unfold locate at h
  split at h
  · exact absurd h (by simp)
  · exact eq_resolve_of_walk h

theorem locate_mono {d d' : Disk} (hk : KeepsDirectories d d') {p : Path} {pl : Place}
    (h : d.locate p = .ok pl) : d'.locate p = .ok pl := by
  unfold locate at h ⊢
  split at h
  · exact absurd h (by simp)
  · next ht => rw [if_neg ht]; exact walk_mono hk h

theorem locate_join {d : Disk} {p : Path} {name : String} (hn : Path.IsName name)
    (hl : name.utf8ByteSize ≤ longestName) (h : d.walk [] p.names = .ok p.place)
    (hdir : d.get? p.place = some .directory) :
    d.locate (p.join name) = .ok (p.place ++ [name]) := by
  rw [locate, Path.text_join_ne p hn, Path.names_join p hn]
  exact walk_snoc h hdir hn.ne_parent hl

/-! ## Finding -/

/-- What is found is what is at the place of the path. -/
theorem find_ok {d : Disk} {p : Path} {pl : Place} {n : Node} (h : d.find p = .ok (pl, n)) :
    d.locate p = .ok p.place ∧ pl = p.place ∧ d.get? p.place = some n := by
  obtain ⟨place, hl, h⟩ := exists_of_bind_ok h
  obtain rfl := locate_eq_place hl
  split at h
  · next m hg =>
    obtain ⟨rfl, rfl⟩ := Prod.mk.inj (Except.ok.inj h)
    exact ⟨hl, rfl, hg⟩
  · cases h

theorem find_of_locate {d : Disk} {p : Path} {n : Node} (h : d.locate p = .ok p.place)
    (hg : d.get? p.place = some n) : d.find p = .ok (p.place, n) := by
  unfold find
  rw [h]
  simp only [bind, Except.bind, hg]
  rfl

/-! ## Looking -/

theorem Node.exists_content {n : Node} (h : n.kind = .file) : ∃ content, n = .file content := by
  cases n with
  | file content => exact ⟨content, rfl⟩
  | directory => cases h

theorem inspect_ok {d : Disk} {p : Path} {k : Kind} (h : d.inspect p = .ok k) :
    d.locate p = .ok p.place ∧ ∃ n, d.get? p.place = some n ∧ n.kind = k := by
  obtain ⟨⟨pl, n⟩, hf, h⟩ := exists_of_bind_ok h
  obtain ⟨hl, -, hg⟩ := find_ok hf
  exact ⟨hl, n, hg, Except.ok.inj h⟩

theorem inspect_of_locate {d : Disk} {p : Path} {n : Node} (h : d.locate p = .ok p.place)
    (hg : d.get? p.place = some n) : d.inspect p = .ok n.kind := by
  rw [inspect, find_of_locate h hg]
  rfl

/-- That a path leads to a directory. -/
def HasDirectory (d : Disk) (p : Path) : Prop :=
  d.locate p = .ok p.place ∧ d.get? p.place = some .directory

theorem hasDirectory_iff {d : Disk} {p : Path} :
    d.HasDirectory p ↔ d.inspect p = .ok .directory := by
  constructor
  · rintro ⟨hl, hg⟩
    exact inspect_of_locate hl hg
  · intro h
    obtain ⟨hl, n, hg, hk⟩ := inspect_ok h
    cases n with
    | file content => exact absurd hk (by simp [Node.kind])
    | directory => exact ⟨hl, hg⟩

theorem HasDirectory.mono {d d' : Disk} {p : Path} (h : d.HasDirectory p)
    (hk : KeepsDirectories d d') : d'.HasDirectory p :=
  ⟨locate_mono hk h.1, hk _ h.2⟩

theorem read_ok_iff {d : Disk} {p : Path} {content : ByteArray} :
    d.read p = .ok content ↔
      d.locate p = .ok p.place ∧ d.get? p.place = some (.file content) := by
  constructor
  · intro h
    obtain ⟨⟨pl, n⟩, hf, h⟩ := exists_of_bind_ok h
    obtain ⟨hl, -, hg⟩ := find_ok hf
    cases n with
    | directory => cases h
    | file c =>
      obtain rfl := Except.ok.inj h
      exact ⟨hl, hg⟩
  · rintro ⟨hl, hg⟩
    rw [read, find_of_locate hl hg]
    rfl

theorem list_ok {d : Disk} {p : Path} {found : List (String × Kind)} (h : d.list p = .ok found) :
    d.HasDirectory p ∧ found = d.children p.place := by
  obtain ⟨⟨pl, n⟩, hf, h⟩ := exists_of_bind_ok h
  obtain ⟨hl, rfl, hg⟩ := find_ok hf
  cases n with
  | file c => cases h
  | directory => exact ⟨⟨hl, hg⟩, (Except.ok.inj h).symm⟩

theorem list_of_hasDirectory {d : Disk} {p : Path} (h : d.HasDirectory p) :
    d.list p = .ok (d.children p.place) := by
  rw [list, find_of_locate h.1 h.2]
  rfl

/-! ## Changing -/

theorem makeDirectory_ok {d d' : Disk} {p : Path} (h : d.makeDirectory p = .ok d') :
    d.locate p = .ok p.place ∧ d.get? p.place = none ∧ d' = d.put p.place .directory := by
  obtain ⟨pl, hl, h⟩ := exists_of_bind_ok h
  obtain rfl := locate_eq_place hl
  split at h
  · cases h
  · next hg => exact ⟨hl, hg, (Except.ok.inj h).symm⟩

theorem create_ok {d d' : Disk} {p : Path} (h : d.create p = .ok d') :
    d.locate p = .ok p.place ∧ d.get? p.place ≠ some .directory ∧
      d' = d.put p.place (.file .empty) := by
  obtain ⟨pl, hl, h⟩ := exists_of_bind_ok h
  obtain rfl := locate_eq_place hl
  split at h
  · cases h
  · next hne => exact ⟨hl, hne, (Except.ok.inj h).symm⟩

theorem append_ok {d d' : Disk} {p : Path} {content : ByteArray}
    (h : d.append p content = .ok d') : d.locate p = .ok p.place ∧
      ∃ before, d.get? p.place = some (.file before) ∧
        d' = d.put p.place (.file (before ++ content)) := by
  obtain ⟨⟨pl, n⟩, hf, h⟩ := exists_of_bind_ok h
  obtain ⟨hl, rfl, hg⟩ := find_ok hf
  cases n with
  | directory => cases h
  | file before => exact ⟨hl, before, hg, (Except.ok.inj h).symm⟩

theorem rename_ok {d d' : Disk} {p q : Path} (h : d.rename p q = .ok d') :
    ∃ content, d.get? p.place = some (.file content) ∧ d.locate q = .ok q.place ∧
      d.get? q.place ≠ some .directory ∧ d' = (d.erase p.place).put q.place (.file content) := by
  obtain ⟨⟨pl, n⟩, hf, h⟩ := exists_of_bind_ok h
  obtain ⟨-, rfl, hg⟩ := find_ok hf
  cases n with
  | directory => cases h
  | file content =>
    obtain ⟨pl, hl, h⟩ := exists_of_bind_ok h
    obtain rfl := locate_eq_place hl
    split at h
    · cases h
    · next hne => exact ⟨content, hg, hl, hne, (Except.ok.inj h).symm⟩

theorem remove_ok {d d' : Disk} {p : Path} (h : d.remove p = .ok d') :
    (∃ content, d.get? p.place = some (.file content)) ∧ d' = d.erase p.place := by
  obtain ⟨⟨pl, n⟩, hf, h⟩ := exists_of_bind_ok h
  obtain ⟨-, rfl, hg⟩ := find_ok hf
  cases n with
  | directory => cases h
  | file content => exact ⟨⟨content, hg⟩, (Except.ok.inj h).symm⟩

/-! ## Replies -/

theorem ne_nil_of_file {d : Disk} {pl : Place} {content : ByteArray}
    (h : d.get? pl = some (.file content)) : pl ≠ [] :=
  ne_nil_of_get?_ne fun he => Node.noConfusion (Option.some.inj (h.symm.trans he))

theorem change_ok {d : Disk} {r : Except SystemError Disk} (u : Unit)
    (h : (d.change r).1 = .ok u) : r = .ok (d.change r).2 := by
  cases r with
  | error e => cases h
  | ok d' => rfl

theorem change_error {d : Disk} {r : Except SystemError Disk} (e : SystemError)
    (h : (d.change r).1 = .error e) : (d.change r).2 = d := by
  cases r with
  | error e => rfl
  | ok d' => cases h

theorem change_cases {d : Disk} {r : Except SystemError Disk} {P : Disk → Prop} (hs : P d)
    (h : ∀ d', r = .ok d' → P d') : P (d.change r).2 := by
  cases r with
  | error e => exact hs
  | ok d' => exact h d' rfl

theorem change_keepsDirectories {d : Disk} {r : Except SystemError Disk}
    (h : ∀ d', r = .ok d' → KeepsDirectories d d') : KeepsDirectories d (d.change r).2 := by
  cases r with
  | error e => exact .refl d
  | ok d' => exact h d' rfl

theorem makeDirectory_keepsDirectories {d d' : Disk} {p : Path}
    (h : d.makeDirectory p = .ok d') : KeepsDirectories d d' := by
  obtain ⟨-, hg, rfl⟩ := makeDirectory_ok h
  exact keepsDirectories_put (by rw [hg]; simp)

theorem append_keepsDirectories {d d' : Disk} {p : Path} {content : ByteArray}
    (h : d.append p content = .ok d') : KeepsDirectories d d' := by
  obtain ⟨-, before, hg, rfl⟩ := append_ok h
  exact keepsDirectories_put (by rw [hg]; simp)

theorem rename_keepsDirectories {d d' : Disk} {p q : Path} (h : d.rename p q = .ok d') :
    KeepsDirectories d d' := by
  obtain ⟨content, hg, -, hne, rfl⟩ := rename_ok h
  have herase : KeepsDirectories d (d.erase p.place) :=
    keepsDirectories_erase (by rw [hg]; simp)
  refine herase.trans (keepsDirectories_put ?_)
  rw [get?_erase (ne_nil_of_file hg)]
  split
  · simp
  · exact hne

/-- No operation removes or replaces a directory. -/
theorem respond_keepsDirectories (s : Surroundings) (d : Disk) (op : Operation) :
    KeepsDirectories d (d.respond s op).2 := by
  cases op with
  | inspect | list | read | now | newId => exact .refl d
  | makeDirectory p => exact change_keepsDirectories fun _ h => makeDirectory_keepsDirectories h
  | append p content => exact change_keepsDirectories fun _ h => append_keepsDirectories h
  | create p =>
    refine change_keepsDirectories fun d' h => ?_
    obtain ⟨-, hne, rfl⟩ := create_ok h
    exact keepsDirectories_put hne
  | remove p =>
    refine change_keepsDirectories fun d' h => ?_
    obtain ⟨⟨content, hg⟩, rfl⟩ := remove_ok h
    exact keepsDirectories_erase (by rw [hg]; simp)
  | rename p q => exact change_keepsDirectories fun _ h => rename_keepsDirectories h

theorem cut_keepsDirectories (d : Disk) (bytes : Nat) (op : Operation) :
    KeepsDirectories d (d.cut bytes op) := by
  cases op with
  | append p content => exact change_keepsDirectories fun _ h => append_keepsDirectories h
  | _ => exact .refl d

/-! ## Listings -/

theorem mem_children {d : Disk} {pl : Place} {name : String} {k : Kind} :
    (name, k) ∈ d.children pl ↔ ∃ n, d.get? (pl ++ [name]) = some n ∧ n.kind = k := by
  have hne : pl ++ [name] ≠ [] := by simp
  unfold children
  rw [List.mem_mergeSort, List.mem_filterMap]
  constructor
  · rintro ⟨⟨p, n⟩, hm, h⟩
    cases hl : p.getLast? with
    | none => simp [hl] at h
    | some last =>
      simp only [hl] at h
      split at h
      · next hp =>
        obtain ⟨rfl, rfl⟩ := Prod.mk.inj (Option.some.inj h)
        obtain ⟨front, rfl⟩ := List.getLast?_eq_some_iff.1 hl
        rw [List.dropLast_concat] at hp
        exact ⟨n, (get?_eq_some_iff hne).2 (hp ▸ hm), rfl⟩
      · cases h
  · rintro ⟨n, hg, rfl⟩
    refine ⟨(pl ++ [name], n), (get?_eq_some_iff hne).1 hg, ?_⟩
    simp

theorem mem_children_iff {d : Disk} {pl : Place} {name : String} :
    name ∈ (d.children pl).map Prod.fst ↔ ∃ n, d.get? (pl ++ [name]) = some n := by
  constructor
  · intro h
    obtain ⟨⟨other, kind⟩, hm, rfl⟩ := List.mem_map.1 h
    obtain ⟨n, hn, -⟩ := mem_children.1 hm
    exact ⟨n, hn⟩
  · rintro ⟨n, hn⟩
    exact List.mem_map.2 ⟨(name, n.kind), mem_children.2 ⟨n, hn, rfl⟩, rfl⟩

theorem place_of_child {pl p : Place} {n : Node} {child : String × Kind}
    (h : (match p.getLast? with
      | some name => if p.dropLast = pl then some (name, n.kind) else none
      | none => none) = some child) : p = pl ++ [child.1] := by
  cases hl : p.getLast? with
  | none => simp [hl] at h
  | some last =>
    simp only [hl] at h
    split at h
    · next hp =>
      obtain ⟨front, rfl⟩ := List.getLast?_eq_some_iff.1 hl
      rw [List.dropLast_concat] at hp
      rw [← Option.some.inj h, hp]
    · cases h

/-- The names in a directory ascend. -/
theorem pairwise_children (d : Disk) (pl : Place) :
    ((d.children pl).map Prod.fst).Pairwise (· < ·) := by
  have hsorted : (d.children pl).Pairwise fun a b => decide (a.1 ≤ b.1) = true := by
    refine List.pairwise_mergeSort (fun a b c hab hbc => ?_) (fun a b => ?_) _
    · exact decide_eq_true (Std.le_trans (of_decide_eq_true hab) (of_decide_eq_true hbc))
    · rcases Std.le_total (a := a.1) (b := b.1) with h | h
      · rw [decide_eq_true h, Bool.true_or]
      · rw [decide_eq_true h, Bool.or_true]
  have hdistinct : (d.children pl).Pairwise fun a b => a.1 ≠ b.1 := by
    refine ((List.mergeSort_perm _ _).pairwise_iff fun h => Ne.symm h).2 ?_
    refine List.pairwise_filterMap.2 ((List.pairwise_map.1 d.distinct).imp ?_)
    rintro ⟨p, n⟩ ⟨q, m⟩ hne a ha b hb he
    exact hne (by rw [place_of_child ha, place_of_child hb, he])
  refine List.pairwise_map.2 ((hsorted.and hdistinct).imp ?_)
  rintro a b ⟨hle, hne⟩
  exact Std.lt_of_le_of_ne (of_decide_eq_true hle) hne

end Disk
end Quarantine
