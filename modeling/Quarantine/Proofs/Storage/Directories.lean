import Quarantine.Proofs.Storage.Success

/-!
# Directories that can be made

Making a directory and all that it is in succeeds where no file is on the way and no name is too
long: a first attempt fails at most because something on the way is missing, and it is no longer
missing at the second one.

    Clear d names            no file is where the names or the first of them lead
    Clear d names      →     the directories of the names are made
    HasDirectory d p   →     nothing is made
-/

namespace Quarantine

open Quarantine.Disk Quarantine.Job

variable {d d' : Disk} {s : Surroundings}

namespace Disk

/-- That no file is where names lead, or the first of them, and that none is too long. -/
structure Clear (d : Disk) (names : List String) : Prop where
  free : ∀ ns, ns <+: names → ∀ content, d.get? (Path.resolve [] ns) ≠ some (.file content)
  short : ∀ name ∈ names, name.utf8ByteSize ≤ longestName

variable {ns names : List String} {p : Path}

theorem Clear.of_prefix (h : d.Clear names) (hns : ns <+: names) : d.Clear ns :=
  ⟨fun ms hms => h.free ms (hms.trans hns), fun name hname => h.short name (hns.subset hname)⟩

/-- Where nothing but directories came to be on the way, no file is on it. -/
theorem Clear.of_get? (h : d.Clear names)
    (hway : ∀ ns, ns <+: names → d'.get? (Path.resolve [] ns) = d.get? (Path.resolve [] ns) ∨
      d'.get? (Path.resolve [] ns) = some .directory) : d'.Clear names := by
  refine ⟨fun ns hns content => ?_, h.short⟩
  rcases hway ns hns with he | hdir
  · rw [he]
    exact h.free ns hns content
  · rw [hdir]
    nofun

theorem Clear.grown (h : d.Clear names) {at_ : Place → Prop} (hg : Grown at_ d d') :
    d'.Clear names := h.of_get? fun ns _ => (hg (Path.resolve [] ns)).imp_right fun hnew => hnew.2.2

theorem Clear.of_get?_eq (h : d.Clear names)
    (hsame : ∀ ns, ns <+: names → d'.get? (Path.resolve [] ns) = d.get? (Path.resolve [] ns)) :
    d'.Clear names := h.of_get? fun ns hns => .inl (hsame ns hns)

theorem get?_empty {pl : Place} (h : pl ≠ []) : empty.get? pl = none := if_neg h

/-- Where nothing is, no file is on a way. -/
theorem clear_empty (h : ∀ name ∈ names, name.utf8ByteSize ≤ longestName) :
    empty.Clear names := by
  refine ⟨fun ns _ content => ?_, h⟩
  by_cases hns : Path.resolve [] ns = []
  · rw [hns, get?_nil]
    nofun
  · rw [get?_empty hns]
    nofun

/-- A clear path leads to a directory or nowhere. -/
theorem Clear.hasDirectory_or (h : d.Clear p.names) :
    d.HasDirectory p ∨ ∀ k, d.inspect p ≠ .ok k := by
  by_cases hthere : ∃ k, d.inspect p = .ok k
  · obtain ⟨k, hk⟩ := hthere
    obtain ⟨hl, node, hg, -⟩ := inspect_ok hk
    cases node with
    | directory => exact .inl ⟨hl, hg⟩
    | file content => exact absurd hg (h.free p.names (List.prefix_refl _) content)
  · exact .inr fun k hk => hthere ⟨k, hk⟩

/-- Names lead to a place, or something on the way is missing. -/
theorem walk_of_free {start : Place}
    (hfree : ∀ ns, ns <+: names → ∀ content,
      d.get? (Path.resolve start ns) ≠ some (.file content))
    (hshort : ∀ name ∈ names, name.utf8ByteSize ≤ longestName) :
    d.walk start names = .ok (Path.resolve start names) ∨
      d.walk start names = .error .notFound := by
  induction names generalizing start with
  | nil => exact .inl rfl
  | cons name rest ih =>
    have hrest := fun name hname => hshort name (List.mem_cons_of_mem _ hname)
    have hfirst (ns : List String) (hns : ns <+: rest) :=
      hfree (name :: ns) ((List.prefix_cons_inj name).2 hns)
    rw [walk, Path.resolve]
    simp only [Path.resolve] at hfirst
    by_cases hup : name = ".."
    · simp only [if_pos hup] at hfirst ⊢
      exact ih hfirst hrest
    · have hlong : ¬ name.utf8ByteSize > longestName :=
        Nat.not_lt_of_le (hshort name List.mem_cons_self)
      simp only [if_neg hup, if_neg hlong] at hfirst ⊢
      cases hempty : rest.isEmpty with
      | true =>
        rw [List.isEmpty_iff.1 hempty]
        exact .inl rfl
      | false =>
        cases hg : d.get? (start ++ [name]) with
        | none => exact .inr rfl
        | some node =>
          cases node with
          | directory => exact ih hfirst hrest
          | file content => exact absurd hg (hfirst [] List.nil_prefix content)

theorem Clear.walk (h : d.Clear names) : d.walk [] names = .ok (Path.resolve [] names) ∨
    d.walk [] names = .error .notFound := walk_of_free h.free h.short

/-- From a directory, a single name that is not too long leads somewhere. -/
theorem Clear.walk_last_ne (h : d.Clear names) {name : String} (hname : name ∈ names)
    {start : Place} : d.walk start [name] ≠ .error .notFound := by
  rw [Disk.walk]
  by_cases hup : name = ".."
  · rw [if_pos hup]
    intro herror
    cases herror
  · rw [if_neg hup, if_neg (Nat.not_lt_of_le (h.short name hname))]
    intro herror
    cases herror

/-- Where the way is there, a directory is made or it is there. -/
theorem Clear.makeDirectory_or (h : d.Clear p.names) (hl : d.locate p = .ok p.place) :
    (∃ d', d.makeDirectory p = .ok d') ∨ d.HasDirectory p := by
  have hfree := h.free p.names (List.prefix_refl _)
  cases hg : d.get? p.place with
  | none =>
    refine .inl ⟨d.put p.place .directory, ?_⟩
    rw [makeDirectory, hl]
    dsimp only [bind, Except.bind]
    rw [hg]
    rfl
  | some node =>
    cases node with
    | directory => exact .inr ⟨hl, hg⟩
    | file content => exact absurd hg (hfree content)

end Disk

namespace Job

/-! ## Attempts -/

/-- An attempt where the way is there settles the directory. -/
theorem succeeds_settle {p : Path} (h : d.Clear p.names) (hl : d.locate p = .ok p.place) :
    ∃ r d', (attempt (.makeDirectory p)).outcome s d = (.ok r, d') ∧ r ≠ .error .notFound ∧
      Succeeds s (settleDirectory p r) d' := by
  have houtcome : (attempt (.makeDirectory p)).outcome s d =
      (.ok (d.change (d.makeDirectory p)).1, (d.change (d.makeDirectory p)).2) := rfl
  rw [houtcome]
  rcases h.makeDirectory_or hl with ⟨d', hmade⟩ | hthere
  · rw [hmade]
    exact ⟨.ok (), d', rfl, nofun, succeeds_pure () d'⟩
  · rw [makeDirectory_of_hasDirectory hthere]
    refine ⟨.error .alreadyExists, d, rfl, nofun, ?_⟩
    have hkind : (isDirectory p).outcome s d = (.ok true, d) := by
      show (Except.ok ((d.inspect p).toOption == some .directory), d) = _
      rw [hasDirectory_iff.1 hthere]
      rfl
    exact succeeds_bind_of_outcome hkind (succeeds_pure () d)

/-- A directory is made at once, or after those that it is in. -/
theorem succeeds_makeDirectories_cons {p : Path} {outer : List Path} (h : d.Clear p.names)
    (hl : d.locate p = .ok p.place ∨ d.locate p = .error .notFound)
    (houter : Succeeds s (makeDirectories outer) d)
    (hafter : ∀ d₁, (makeDirectories outer).outcome s d = (.ok (), d₁) →
      d₁.Clear p.names ∧ d₁.locate p = .ok p.place) :
    Succeeds s (makeDirectories (p :: outer)) d := by
  rw [makeDirectories]
  rcases hl with hl | hl
  · obtain ⟨r, d', hattempt, hne, hsettled⟩ := succeeds_settle (s := s) h hl
    refine succeeds_bind_of_outcome hattempt ?_
    rcases r with e | u
    · cases e with
      | notFound => exact absurd rfl hne
      | _ => exact hsettled
    · exact hsettled
  · have hattempt : (attempt (.makeDirectory p)).outcome s d =
        (.ok (.error .notFound), d) := by
      show (Except.ok (d.change (d.makeDirectory p)).1, (d.change (d.makeDirectory p)).2) = _
      rw [makeDirectory, hl]
      rfl
    refine succeeds_bind_of_outcome hattempt (houter.bind fun _ d₁ h₁ => ?_)
    obtain ⟨hclear, hl₁⟩ := hafter d₁ h₁
    obtain ⟨r, d', hattempt, -, hsettled⟩ := succeeds_settle (s := s) hclear hl₁
    exact succeeds_bind_of_outcome hattempt hsettled

/-- When the directories of a path are made, the way to it is there. -/
theorem walk_of_makeDirectories {q : Path} {d₁ : Disk}
    (h : (makeDirectories q.ancestors).outcome s d = (.ok (), d₁)) :
    Grown q.OnWay d d₁ ∧ d₁.walk [] q.names = .ok q.place ∧
      d₁.get? q.place = some .directory := by
  obtain ⟨hgrown, hfirst⟩ : Grown q.OnWay d d₁ ∧ ∀ p ∈ q.ancestors.head?, d₁.HasDirectory p :=
    (ensures_makeDirectories (S := fun _ => True) (Q := fun _ d₁ => Grown q.OnWay d d₁ ∧
      ∀ p ∈ q.ancestors.head?, d₁.HasDirectory p) q.OnWay (fun p => Path.onWay_of_mem_ancestors)
      (fun _ _ => trivial) fun _ hg hd => ⟨hg, hd⟩).of_outcome h
  refine ⟨hgrown, ?_⟩
  rcases List.eq_nil_or_concat q.names with hnil | ⟨front, name, hnames⟩
  · rw [Path.place, hnil]
    exact ⟨rfl, get?_nil d₁⟩
  · rw [List.concat_eq_append] at hnames
    have hare := Path.areNames_names q
    obtain ⟨p, hp⟩ := Path.exists_names_of_prefix (⟨[name], hnames.symm⟩ : front <+: q.names)
    rw [Path.ancestors_of_names (q := p) (by rw [hp, hnames])] at hfirst
    have hthere := hfirst _ rfl
    have hwalk := hthere.walk
    have hdir := hthere.2
    rw [Path.place, Path.names_ofNames hare] at hwalk hdir
    exact ⟨hwalk, hdir⟩

/-- The directory of a path is made, and all that it is in, where no file is on the way. -/
theorem succeeds_makeDirectories {p : Path} (h : d.Clear p.names) :
    Succeeds s (makeDirectories p.ancestors) d := by
  induction hlength : p.names.length generalizing p with
  | zero =>
    rw [Path.ancestors, hlength]
    exact succeeds_pure () d
  | succ n ih =>
    obtain ⟨front, name, hnames⟩ := (List.eq_nil_or_concat p.names).resolve_left fun he => by
      rw [he] at hlength
      cases hlength
    rw [List.concat_eq_append] at hnames
    have hprefix : front <+: p.names := ⟨[name], hnames.symm⟩
    have hare := Path.areNames_names p
    obtain ⟨q, hq⟩ := Path.exists_names_of_prefix hprefix
    have htext : (Path.ofNames p.names).text.isEmpty = false :=
      Path.text_ofNames_ne (fun he => by rw [he] at hlength; cases hlength) hare
    have hlocate (d : Disk) : d.locate (Path.ofNames p.names) = d.walk [] p.names := by
      rw [locate, htext, Path.names_ofNames hare]
      rfl
    have hplace : (Path.ofNames p.names).place = Path.resolve [] p.names := by
      rw [Path.place, Path.names_ofNames hare]
    have houter : Succeeds s (makeDirectories q.ancestors) d := by
      refine ih ?_ ?_
      · rw [hq]
        exact h.of_prefix hprefix
      · rw [hnames, List.length_append, List.length_singleton] at hlength
        rw [hq]
        omega
    rw [Path.ancestors_of_names (q := q) (by rw [hq, hnames])]
    refine succeeds_makeDirectories_cons ?_ ?_ houter fun d₁ h₁ => ?_
    · rw [Path.names_ofNames hare]
      exact h
    · rw [hlocate, hplace]
      exact h.walk
    · obtain ⟨hgrown, hwalk, hdir⟩ := walk_of_makeDirectories h₁
      have hclear := h.grown hgrown
      rw [hlocate, hplace, Path.names_ofNames hare]
      refine ⟨hclear, hclear.walk.resolve_right ?_⟩
      rw [hnames, ← hq, walk_concat name hwalk hdir]
      exact hclear.walk_last_ne (by rw [hnames]; exact List.mem_append_right _ List.mem_cons_self)

/-- A directory is made, on the way to it and nowhere else. -/
theorem exists_outcome_ensureDirectory {p : Path} (htext : p.text.isEmpty = false)
    (h : d.Clear p.names) : ∃ d', (ensureDirectory p).outcome s d = (.ok (), d') ∧
      Grown p.OnWay d d' ∧ d'.HasDirectory p := by
  obtain ⟨⟨⟩, hmade⟩ := succeeds_makeDirectories (s := s) h
  have houtcome : (makeDirectories p.ancestors).outcome s d =
      (.ok (), ((makeDirectories p.ancestors).outcome s d).2) := Prod.ext hmade rfl
  obtain ⟨hgrown, hwalk, hdir⟩ := walk_of_makeDirectories houtcome
  refine ⟨_, houtcome, hgrown, ?_, hdir⟩
  rw [locate, htext]
  exact hwalk

end Job
end Quarantine
