import Quarantine.Proofs.Storage.Outcome

/-!
# What jobs do to a disk

A job on whole files or directories touches few places, and what it has done when it is cut off
is told by a relation between the disk before and the disk then.

    Grown at d d'            directories more, at places that satisfy `at`
    Partly temp d d'         a file more or less complete at `temp`
    Written path text d d'   the file of `path` complete, and none at its temporary place
-/

namespace Quarantine

namespace Disk

/-- That a disk has directories that another had not, at some places, and nothing else changed. -/
def Grown (at_ : Place → Prop) (d d' : Disk) : Prop :=
  ∀ pl, d'.get? pl = d.get? pl ∨ at_ pl ∧ d.get? pl = none ∧ d'.get? pl = some .directory

/-- That a disk may have a file at a place where it had no directory, and nothing else changed. -/
structure Partly (temp : Place) (d d' : Disk) : Prop where
  other : ∀ pl, pl ≠ temp → d'.get? pl = d.get? pl
  file : d'.get? temp = d.get? temp ∨
    d.get? temp ≠ some .directory ∧ ∃ content, d'.get? temp = some (.file content)

/-- That a disk has a file that was completed in one move. -/
structure Written (path : Path) (content : ByteArray) (d d' : Disk) : Prop where
  located : d'.locate path = .ok path.place
  file : d'.get? path.place = some (.file content)
  replaced : d.get? path.place ≠ some .directory
  temporary : d'.get? path.temporary.place = none
  temporary_before : d.get? path.temporary.place ≠ some .directory
  other : ∀ pl, pl ≠ path.place → pl ≠ path.temporary.place → d'.get? pl = d.get? pl

theorem Grown.refl (at_ : Place → Prop) (d : Disk) : Grown at_ d d := fun _ => .inl rfl

theorem Grown.keepsDirectories {at_ : Place → Prop} {d d' : Disk} (h : Grown at_ d d') :
    KeepsDirectories d d' := by
  intro pl hpl
  rcases h pl with h | ⟨-, hn, -⟩
  · rw [h, hpl]
  · rw [hpl] at hn
    cases hn

theorem Grown.trans {at_ : Place → Prop} {d d' d'' : Disk} (h : Grown at_ d d')
    (h' : Grown at_ d' d'') : Grown at_ d d'' := by
  intro pl
  rcases h' pl with he' | ⟨ha, hn', hd'⟩
  · rw [he']
    exact h pl
  · rcases h pl with he | ⟨-, -, hd⟩
    · exact .inr ⟨ha, he ▸ hn', hd'⟩
    · rw [hd] at hn'
      cases hn'

theorem Grown.mono {at_ at' : Place → Prop} {d d' : Disk} (h : Grown at_ d d')
    (hat : ∀ pl, at_ pl → at' pl) : Grown at' d d' :=
  fun pl => (h pl).imp_right fun ⟨ha, hn, hd⟩ => ⟨hat pl ha, hn, hd⟩

theorem Partly.refl (temp : Place) (d : Disk) : Partly temp d d := ⟨fun _ _ => rfl, .inl rfl⟩

theorem Partly.keepsDirectories {temp : Place} {d d' : Disk} (h : Partly temp d d') :
    KeepsDirectories d d' := by
  intro pl hpl
  by_cases he : pl = temp
  · subst he
    rcases h.file with hf | ⟨hne, -⟩
    · rw [hf, hpl]
    · exact absurd hpl hne
  · rw [h.other pl he, hpl]

theorem partly_put {temp : Place} {d : Disk} (h : d.get? temp ≠ some .directory)
    (content : ByteArray) : Partly temp d (d.put temp (.file content)) := by
  have hne := ne_nil_of_get?_ne h
  refine ⟨fun pl hpl => ?_, .inr ⟨h, content, ?_⟩⟩
  · rw [get?_put hne, if_neg hpl]
  · rw [get?_put hne, if_pos rfl]

theorem Written.keepsDirectories {path : Path} {content : ByteArray} {d d' : Disk}
    (h : Written path content d d') : KeepsDirectories d d' := by
  intro pl hpl
  have h1 : pl ≠ path.place := fun he => h.replaced (he ▸ hpl)
  have h2 : pl ≠ path.temporary.place := fun he => h.temporary_before (he ▸ hpl)
  rw [h.other pl h1 h2, hpl]

theorem Written.read {path : Path} {content : ByteArray} {d d' : Disk}
    (h : Written path content d d') : d'.read path = .ok content :=
  read_ok_iff.2 ⟨h.located, h.file⟩

end Disk

namespace Path

/-- That a place is on the way of a path. -/
def OnWay (p : Path) (pl : Place) : Prop := ∃ ns, ns <+: p.names ∧ pl = resolve [] ns

theorem onWay_of_mem_ancestors {p q : Path} (h : q ∈ p.ancestors) : p.OnWay q.place := by
  obtain ⟨ns, hp, -, rfl⟩ := exists_of_mem_ancestors h
  have hns : AreNames ns := by
    rw [List.prefix_iff_eq_take.1 hp]
    exact (areNames_names p).take _
  exact ⟨ns, hp, by rw [place, names_ofNames hns]⟩

theorem OnWay.join {p : Path} {name : String} (hn : IsName name) {pl : Place}
    (h : (p.join name).OnWay pl) : p.OnWay pl ∨ pl = p.place ++ [name] := by
  obtain ⟨ns, hp, rfl⟩ := h
  rw [names_join p hn] at hp
  rcases List.prefix_concat_iff.1 hp with rfl | hp
  · right
    rw [← place_join p hn, place, names_join p hn]
  · exact .inl ⟨ns, hp, rfl⟩

end Path

namespace Disk

/-- Paths with the same names lead to the same place. -/
theorem HasDirectory.of_names {d : Disk} {p q : Path} (h : d.HasDirectory p)
    (hn : q.names = p.names) (hq : q.text.isEmpty = false) : d.HasDirectory q := by
  obtain ⟨hl, hg⟩ := h
  have hplace : q.place = p.place := by rw [Path.place, Path.place, hn]
  refine ⟨?_, hplace ▸ hg⟩
  unfold locate at hl ⊢
  split at hl
  · cases hl
  · rw [hq, hn, hplace]
    exact hl

end Disk

namespace Job

open Disk

section

variable {s : Surroundings} {S : Disk → Prop} {d : Disk}

/-! ## Directories -/

theorem ensures_attempt_makeDirectory {p : Path} (at_ : Place → Prop) (hat : at_ p.place)
    {Q : Except SystemError Unit → Disk → Prop} (hs : ∀ d', Grown at_ d d' → S d')
    (hp : ∀ r d', Grown at_ d d' → (r = .ok () → d'.HasDirectory p) → Q r d') :
    Ensures s S Q (attempt (.makeDirectory p)) d := by
  have herror (e : SystemError) : Q (.error e) d := hp _ _ (.refl at_ d) fun h => by cases h
  refine ensures_attempt (o := .makeDirectory p) (hs d (.refl at_ d)) ?_ fun _ e =>
    ⟨herror e, fun _ => herror e⟩
  show Q (d.change (d.makeDirectory p)).1 (d.change (d.makeDirectory p)).2
  cases hm : d.makeDirectory p with
  | error e => exact herror e
  | ok d' =>
    obtain ⟨hl, hg, rfl⟩ := makeDirectory_ok hm
    have hne : p.place ≠ [] := ne_nil_of_get?_ne (by rw [hg]; simp)
    have hgrown : Grown at_ d (d.put p.place .directory) := by
      intro pl
      rw [get?_put hne]
      by_cases he : pl = p.place
      · subst he
        rw [if_pos rfl]
        exact .inr ⟨hat, hg, rfl⟩
      · rw [if_neg he]
        exact .inl rfl
    have hdir : (d.put p.place .directory).get? p.place = some .directory := by
      rw [get?_put hne, if_pos rfl]
    exact hp _ _ hgrown fun _ => ⟨locate_mono hgrown.keepsDirectories hl, hdir⟩

theorem ensures_settleDirectory {p : Path} {r : Except SystemError Unit}
    {Q : Unit → Disk → Prop} (hs : S d) (hr : r = .ok () → d.HasDirectory p)
    (hp : d.HasDirectory p → Q () d) : Ensures s S Q (settleDirectory p r) d := by
  cases r with
  | ok u => exact ensures_pure (hp (hr rfl))
  | error e =>
    refine (ensures_isDirectory (Q := fun b d' => d' = d ∧ (b = true → d.HasDirectory p)) hs
      ⟨rfl, fun h => ?_⟩).bind ?_
    · cases hi : d.inspect p with
      | error e => rw [hi] at h; cases h
      | ok k =>
        rw [hi] at h
        cases k with
        | file => cases h
        | directory => exact hasDirectory_iff.2 hi
    · rintro b d' ⟨rfl, hb⟩
      cases b with
      | true => exact ensures_pure (hp (hb rfl))
      | false => exact ensures_throw hs

/-- Directories are made on the way and nowhere else; at the end the first one is there. -/
theorem ensures_makeDirectories {paths : List Path} (at_ : Place → Prop)
    (hat : ∀ p ∈ paths, at_ p.place) {Q : Unit → Disk → Prop}
    (hs : ∀ d', Grown at_ d d' → S d')
    (hp : ∀ d', Grown at_ d d' → (∀ p ∈ paths.head?, d'.HasDirectory p) → Q () d') :
    Ensures s S Q (makeDirectories paths) d := by
  induction paths generalizing d Q with
  | nil => exact ensures_pure (hp d (.refl at_ d) fun p h => by cases h)
  | cons p outer ih =>
    have hap := hat p List.mem_cons_self
    have hdone {d' : Disk} (hg : Grown at_ d d') {r : Except SystemError Unit}
        (hr : r = .ok () → d'.HasDirectory p) : Ensures s S Q (settleDirectory p r) d' :=
      ensures_settleDirectory (hs d' hg) hr fun h => hp d' hg fun q hq => by
        obtain rfl := Option.some.inj hq
        exact h
    rw [makeDirectories]
    refine (ensures_attempt_makeDirectory (Q := fun r d' => Grown at_ d d' ∧
      (r = .ok () → d'.HasDirectory p)) at_ hap hs fun r d' hg hr => ⟨hg, hr⟩).bind ?_
    rintro r d' ⟨hg, hr⟩
    cases r with
    | ok u => exact hdone hg hr
    | error e =>
      cases e with
      | notFound =>
        -- what it is in comes first, then a second attempt
        refine (ih (Q := fun _ d₁ => Grown at_ d d₁)
          (fun q hq => hat q (List.mem_cons_of_mem _ hq)) (fun d₁ h => hs d₁ (hg.trans h))
          fun d₁ h _ => hg.trans h).bind fun _ d₁ hg₁ => ?_
        refine (ensures_attempt_makeDirectory (Q := fun r d₂ => Grown at_ d d₂ ∧
          (r = .ok () → d₂.HasDirectory p)) at_ hap (fun d₂ h => hs d₂ (hg₁.trans h))
          fun r d₂ h hr => ⟨hg₁.trans h, hr⟩).bind ?_
        rintro r d₂ ⟨hg₂, hr⟩
        exact hdone hg₂ hr
      | _ => exact hdone hg hr

/-- A directory is there when all directories on its way are made. -/
theorem ensures_ensureDirectory {p : Path} {name : String} (hn : Path.IsName name)
    {Q : Unit → Disk → Prop} (hs : ∀ d', Grown (p.join name).OnWay d d' → S d')
    (hp : ∀ d', Grown (p.join name).OnWay d d' → d'.HasDirectory (p.join name) → Q () d') :
    Ensures s S Q (ensureDirectory (p.join name)) d := by
  refine ensures_makeDirectories (p.join name).OnWay (fun q => Path.onWay_of_mem_ancestors) hs
    fun d' hg hd => hp d' hg ?_
  have hnames : Path.AreNames (p.names ++ [name]) := by
    rw [← Path.names_join p hn]
    exact Path.areNames_names _
  have hfirst := hd (Path.ofNames (p.names ++ [name])) (by rw [Path.ancestors_join p hn]; rfl)
  refine hfirst.of_names ?_ (Path.text_join_ne p hn)
  rw [Path.names_join p hn, Path.names_ofNames hnames]

/-! ## Files -/

theorem ensures_readText {p : Path} {Q : String → Disk → Prop} (hs : S d)
    (hp : ∀ content text, d.read p = .ok content → String.fromUTF8? content = some text →
      Q text d) : Ensures s S Q (readText p) d := by
  refine (ensures_ask (o := .read p) (Q := fun content d' => d' = d ∧ d.read p = .ok content)
    hs (fun r h => ⟨rfl, h⟩) (fun _ _ => hs) fun _ => hs).bind ?_
  rintro content d' ⟨rfl, hr⟩
  cases ht : String.fromUTF8? content with
  | none => exact ensures_throw hs
  | some text => exact ensures_pure (hp content text hr ht)

/-- A change that must succeed. -/
theorem ensures_change {o : Operation} {r : Except SystemError Disk}
    (hop : ∀ reply, (d.respond s o).1 = .ok reply → r = .ok (d.respond s o).2)
    (hfail : ∀ e, (d.respond s o).1 = .error e → (d.respond s o).2 = d)
    {Q : o.Reply → Disk → Prop} (hs : S d) (hc : ∀ n, S (d.cut n o))
    (hp : ∀ reply d', r = .ok d' → Q reply d') : Ensures s S Q (ask o) d :=
  ensures_ask hs (fun reply h => hp reply _ (hop reply h)) (fun e h => (hfail e h).symm ▸ hs) hc

/-- A file is written beside its place and moved there in the end: until then nothing but its
temporary place has changed. -/
theorem ensures_writeWhole {p : Path} {content : String} (hne : p.temporary.place ≠ p.place)
    {Q : Unit → Disk → Prop} (hs : ∀ d', Partly p.temporary.place d d' → S d')
    (hp : ∀ d', Written p content.toUTF8 d d' → Q () d') :
    Ensures s S Q (writeWhole p content) d := by
  have hd := hs d (.refl _ d)
  refine (ensures_change (o := .create p.temporary) (Q := fun _ d₁ =>
    d.create p.temporary = .ok d₁) change_ok change_error hd (fun _ => hd)
    fun _ _ h => h).bind fun _ d₁ h₁ => ?_
  obtain ⟨-, htemp, rfl⟩ := create_ok h₁
  have htne : p.temporary.place ≠ [] := ne_nil_of_get?_ne htemp
  have hd₁ := hs _ (partly_put htemp .empty)
  have hget₁ : (d.put p.temporary.place (.file .empty)).get? p.temporary.place =
      some (.file .empty) := by
    rw [get?_put htne, if_pos rfl]
  have hpartly (c : ByteArray) : Partly p.temporary.place d
      ((d.put p.temporary.place (.file .empty)).put p.temporary.place (.file c)) := by
    refine ⟨fun pl hpl => ?_, .inr ⟨htemp, c, ?_⟩⟩
    · rw [get?_put htne, if_neg hpl, get?_put htne, if_neg hpl]
    · rw [get?_put htne, if_pos rfl]
  have happend {c : ByteArray} {d₂ : Disk}
      (h : (d.put p.temporary.place (.file .empty)).append p.temporary c = .ok d₂) :
      d₂ = (d.put p.temporary.place (.file .empty)).put p.temporary.place (.file c) := by
    obtain ⟨-, before, hb, rfl⟩ := append_ok h
    rw [hget₁] at hb
    obtain rfl := Node.file.inj (Option.some.inj hb)
    rw [ByteArray.empty_append]
  refine (ensures_change (o := .append p.temporary content.toUTF8) (Q := fun _ d₂ =>
    (d.put p.temporary.place (.file .empty)).append p.temporary content.toUTF8 = .ok d₂)
    change_ok change_error hd₁ (fun n => ?_) fun _ _ h => h).bind fun _ d₂ h₂ => ?_
  · -- part of the bytes
    refine change_cases (P := S) hd₁ fun d' h => ?_
    rw [happend h]
    exact hs _ (hpartly _)
  obtain rfl := happend h₂
  have hd₂ := hs _ (hpartly content.toUTF8)
  refine ensures_change (o := .rename p.temporary p) change_ok change_error hd₂ (fun _ => hd₂)
    fun _ d₃ h₃ => hp d₃ ?_
  have hkeep := rename_keepsDirectories h₃
  obtain ⟨c, hc, hloc, hrep, rfl⟩ := rename_ok h₃
  rw [get?_put htne, if_pos rfl] at hc
  obtain rfl := Node.file.inj (Option.some.inj hc)
  rw [get?_put htne, if_neg (Ne.symm hne), get?_put htne, if_neg (Ne.symm hne)] at hrep
  have hpne : p.place ≠ [] := ne_nil_of_get?_ne hrep
  refine ⟨locate_mono hkeep hloc, ?_, hrep, ?_, htemp, fun pl hp ht => ?_⟩
  · rw [get?_put hpne, if_pos rfl]
  · rw [get?_put hpne, if_neg hne, get?_erase htne, if_pos rfl]
  · rw [get?_put hpne, if_neg hp, get?_erase htne, if_neg ht, get?_put htne, if_neg ht,
      get?_put htne, if_neg ht]

end

end Job
end Quarantine
