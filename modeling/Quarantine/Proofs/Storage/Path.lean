import Quarantine.Proofs.Storage.Rows
import Quarantine.Storage.Disk
import Quarantine.Storage.Layout

/-!
# Names of paths

A path is told by its names, and a path that is made of names has these names again.

    (join p name).names      = p.names ++ [name]
    (ofNames p.names).names  = p.names
    (join p name).temporary  = join p (unfinishedName name)
    place (join p name)      = place p ++ [name]

The place of a path is where its names lead when each name but ".." goes one step down.
-/

namespace Quarantine

open Quarantine.Text

/-! ## Parts -/

namespace Text

theorem split_append {α : Type} [DecidableEq α] (sep : α) (xs ys : List α) :
    split sep (xs ++ sep :: ys) = split sep xs ++ split sep ys := by
  induction xs with
  | nil => rw [List.nil_append, split_cons, if_pos rfl, split_nil, List.singleton_append]
  | cons x xs ih =>
    rw [List.cons_append, split_cons, split_cons, ih]
    by_cases h : x = sep
    · rw [if_pos h, if_pos h, List.cons_append]
    · rw [if_neg h, if_neg h]
      cases hs : split sep xs with
      | nil => exact absurd hs (split_ne_nil sep xs)
      | cons part rest => rfl

theorem split_of_not_mem {α : Type} [DecidableEq α] {sep : α} {xs : List α} (h : sep ∉ xs) :
    split sep xs = [xs] := by
  induction xs with
  | nil => rfl
  | cons x xs ih =>
    have hne : x ≠ sep := fun he => h (he ▸ List.mem_cons_self)
    rw [split_cons, if_neg hne, ih fun hm => h (List.mem_cons_of_mem _ hm)]
    rfl

theorem split_join {α : Type} [DecidableEq α] {sep : α} {parts : List (List α)}
    (hne : parts ≠ []) (h : ∀ p ∈ parts, sep ∉ p) : split sep (join sep parts) = parts := by
  induction parts with
  | nil => exact absurd rfl hne
  | cons p parts ih =>
    have hp := h p List.mem_cons_self
    cases parts with
    | nil => exact split_of_not_mem hp
    | cons q parts =>
      rw [join, split_append_cons hp,
        ih (List.cons_ne_nil _ _) fun r hr => h r (List.mem_cons_of_mem _ hr)]
      exact fun he => List.cons_ne_nil _ _ he

end Text

namespace Path

/-! ## Names -/

/-- A text that stands for one step down. -/
structure IsName (name : String) : Prop where
  ne_nil : name.toList ≠ []
  no_slash : '/' ∉ name.toList
  ne_dot : name.toList ≠ ['.']
  ne_parent : name ≠ ".."

instance (name : String) : Decidable (IsName name) :=
  decidable_of_iff (name.toList ≠ [] ∧ '/' ∉ name.toList ∧ name.toList ≠ ['.'] ∧ name ≠ "..")
    ⟨fun ⟨a, b, c, d⟩ => ⟨a, b, c, d⟩, fun ⟨a, b, c, d⟩ => ⟨a, b, c, d⟩⟩

/-- The parts of a text that count as names. -/
def counts (part : List Char) : Bool := part ≠ [] && part ≠ ['.']

theorem names_eq (p : Path) : p.names = (if p.isAbsolute then [rootName] else []) ++
    ((split '/' p.text.toList).filter counts).map String.ofList := rfl

theorem filter_split_name {name : String} (h : IsName name) :
    (split '/' name.toList).filter counts = [name.toList] := by
  have hc : counts name.toList = true := by simp [counts, h.ne_nil, h.ne_dot]
  rw [split_of_not_mem h.no_slash, List.filter_cons_of_pos hc, List.filter_nil]

theorem names_join (p : Path) {name : String} (h : IsName name) :
    (p.join name).names = p.names ++ [name] := by
  obtain ⟨text⟩ := p
  have hhead : name.toList.head? ≠ some '/' := fun he =>
    h.no_slash (List.mem_of_head? he)
  rw [names_eq, names_eq]
  unfold join
  split
  · next hend =>
    rcases Bool.or_eq_true_iff.1 hend with hempty | hslash
    · -- nothing in front of the name
      have ht : text = "" := by simpa using hempty
      subst ht
      simp only [isAbsolute, String.empty_append, beq_eq_false_iff_ne.2 hhead,
        filter_split_name h]
      simp
      decide
    · obtain ⟨front, hfront⟩ := List.getLast?_eq_some_iff.1 (beq_iff_eq.1 hslash)
      have habs : (Path.mk (text ++ name)).isAbsolute = (Path.mk text).isAbsolute := by
        simp only [isAbsolute, String.toList_append, hfront]
        cases front <;> rfl
      simp only [habs, String.toList_append, hfront, List.append_assoc, List.singleton_append,
        split_append, List.filter_append, filter_split_name h]
      simp [split_nil, counts]
  · next hend =>
    have habs : (Path.mk (text ++ "/" ++ name)).isAbsolute = (Path.mk text).isAbsolute := by
      simp only [isAbsolute, String.toList_append]
      cases ht : text.toList with
      | nil =>
        have : text = "" := String.toList_eq_nil_iff.1 ht
        simp [this] at hend
      | cons c cs => rfl
    simp only [habs, String.toList_append, List.append_assoc]
    rw [show "/".toList = ['/'] from rfl, List.singleton_append, split_append, List.filter_append,
      filter_split_name h]
    simp

theorem text_join_ne (p : Path) {name : String} (h : IsName name) :
    (p.join name).text.isEmpty = false := by
  have hne : name ≠ "" := fun he => h.ne_nil (he ▸ rfl)
  unfold join
  split <;> simp [hne]

/-! ## Paths of names -/

/-- A text between slashes that counts: a name, or the step up. -/
structure IsComponent (name : String) : Prop where
  ne_nil : name.toList ≠ []
  no_slash : '/' ∉ name.toList
  ne_dot : name.toList ≠ ['.']

theorem isComponent_of_mem_split {text : List Char} {name : String}
    (h : name ∈ ((split '/' text).filter counts).map String.ofList) : IsComponent name := by
  obtain ⟨part, hpart, rfl⟩ := List.mem_map.1 h
  obtain ⟨hmem, hc⟩ := List.mem_filter.1 hpart
  simp only [counts, Bool.and_eq_true, decide_eq_true_eq] at hc
  refine ⟨?_, ?_, ?_⟩ <;> rw [String.toList_ofList]
  · exact hc.1
  · exact not_mem_of_mem_split '/' text part hmem
  · exact hc.2

theorem toList_slashed (names : List String) :
    ("/".intercalate names).toList = Text.join '/' (names.map String.toList) := by
  induction names with
  | nil => rfl
  | cons name names ih =>
    cases names with
    | nil => rw [String.intercalate_singleton]; rfl
    | cons next names =>
      rw [String.intercalate_cons_cons, String.toList_append, String.toList_append, ih,
        List.append_assoc]
      rfl

theorem filter_split_slashed {names : List String} (h : ∀ n ∈ names, IsComponent n) :
    ((split '/' ("/".intercalate names).toList).filter counts).map String.ofList = names := by
  rw [toList_slashed]
  by_cases hne : names = []
  · subst hne
    rfl
  · have hparts : ∀ p ∈ names.map String.toList, '/' ∉ p := by
      intro p hp
      obtain ⟨n, hn, rfl⟩ := List.mem_map.1 hp
      exact (h n hn).no_slash
    have hcounts : ∀ p ∈ names.map String.toList, counts p = true := by
      intro p hp
      obtain ⟨n, hn, rfl⟩ := List.mem_map.1 hp
      simp [counts, (h n hn).ne_nil, (h n hn).ne_dot]
    have hne' : names.map String.toList ≠ [] := fun he => hne (List.map_eq_nil_iff.1 he)
    rw [split_join hne' hparts, List.filter_eq_self.2 hcounts, List.map_map]
    exact List.map_id'' (fun _ => String.ofList_toList) _

/-- Names as a path can have them: components, after the root of the file system perhaps. -/
def AreNames (ns : List String) : Prop :=
  (∀ n ∈ ns, IsComponent n) ∨ ∃ rest, ns = rootName :: rest ∧ ∀ n ∈ rest, IsComponent n

theorem areNames_names (p : Path) : AreNames p.names := by
  rw [names_eq]
  by_cases h : p.isAbsolute
  · rw [if_pos h]
    exact .inr ⟨_, rfl, fun _ => isComponent_of_mem_split⟩
  · rw [if_neg h]
    exact .inl fun _ => isComponent_of_mem_split

theorem AreNames.take {ns : List String} (h : AreNames ns) (k : Nat) : AreNames (ns.take k) := by
  rcases h with h | ⟨rest, rfl, h⟩
  · exact .inl fun n hn => h n (List.mem_of_mem_take hn)
  · cases k with
    | zero => exact .inl fun n hn => absurd hn List.not_mem_nil
    | succ k => exact .inr ⟨rest.take k, rfl, fun n hn => h n (List.mem_of_mem_take hn)⟩

theorem rootName_ne {name : String} (h : IsComponent name) : name ≠ rootName :=
  fun he => h.no_slash (he ▸ by decide)

theorem names_ofNames {ns : List String} (h : AreNames ns) : (ofNames ns).names = ns := by
  rcases h with h | ⟨rest, rfl, h⟩
  · cases ns with
    | nil => rfl
    | cons first rest =>
      have hfirst := h first List.mem_cons_self
      have hrelative : (Path.mk ("/".intercalate (first :: rest))).isAbsolute = false := by
        rw [isAbsolute, toList_slashed]
        refine beq_eq_false_iff_ne.2 fun he => hfirst.no_slash ?_
        obtain ⟨c, cs, hc⟩ := List.exists_cons_of_ne_nil hfirst.ne_nil
        have hd : (Text.join '/' ((first :: rest).map String.toList)).head? = some c := by
          cases rest <;> simp [Text.join, hc]
        rw [hc, Option.some.inj (hd.symm.trans he)]
        exact List.mem_cons_self
      rw [ofNames, if_neg (rootName_ne hfirst), names_eq, hrelative, filter_split_slashed h]
      rfl
  · have habsolute : (Path.mk (rootName ++ "/".intercalate rest)).isAbsolute = true := by
      rw [isAbsolute, String.toList_append]
      rfl
    rw [ofNames, if_pos rfl, names_eq, habsolute, String.toList_append]
    have hroot : rootName.toList ++ ("/".intercalate rest).toList =
        '/' :: ("/".intercalate rest).toList := rfl
    rw [hroot, split_cons, if_pos rfl, if_pos rfl, List.filter_cons_of_neg (by decide),
      filter_split_slashed h]
    rfl

/-- The first names of a path are those of a path. -/
theorem exists_names_of_prefix {p : Path} {ns : List String} (h : ns <+: p.names) :
    ∃ q : Path, q.names = ns := by
  refine ⟨ofNames ns, ?_⟩
  rw [List.prefix_iff_eq_take.1 h]
  exact names_ofNames ((areNames_names p).take _)

theorem text_ofNames_ne {ns : List String} (hne : ns ≠ []) (h : AreNames ns) :
    (ofNames ns).text.isEmpty = false := by
  have hnames := names_ofNames h
  cases ht : (ofNames ns).text.isEmpty with
  | false => rfl
  | true =>
    have htext : ofNames ns = ⟨""⟩ := by
      cases hp : ofNames ns with
      | mk text => simpa [hp] using ht
    rw [htext] at hnames
    exact absurd hnames.symm hne

/-! ## Ancestors -/

/-- With one name more there is one directory more. -/
theorem ancestors_of_names {p q : Path} {name : String} (h : p.names = q.names ++ [name]) :
    p.ancestors = ofNames p.names :: q.ancestors := by
  unfold ancestors
  simp only [h, List.length_append, List.length_singleton, List.range_succ_eq_map, List.map_cons,
    List.map_map]
  have hfirst : (q.names ++ [name]).take (q.names.length + 1 - 0) = q.names ++ [name] :=
    List.take_of_length_le (by simp)
  have hrest : ∀ i, (q.names ++ [name]).take (q.names.length + 1 - (i + 1)) =
      q.names.take (q.names.length - i) := by
    intro i
    rw [Nat.add_sub_add_right, List.take_append_of_le_length (by omega)]
  rw [hfirst]
  refine congrArg (ofNames (q.names ++ [name]) :: ·) (List.map_congr_left fun i _ => ?_)
  exact congrArg ofNames (hrest i)

theorem ancestors_join (p : Path) {name : String} (h : IsName name) :
    (p.join name).ancestors = ofNames (p.names ++ [name]) :: p.ancestors := by
  rw [ancestors_of_names (names_join p h), names_join p h]

theorem parents_join (p : Path) {name : String} (h : IsName name) :
    (p.join name).parents = p.ancestors := by
  rw [parents, ancestors_join p h, List.drop_succ_cons, List.drop_zero]

theorem exists_of_mem_ancestors {p q : Path} (h : q ∈ p.ancestors) :
    ∃ ns, ns <+: p.names ∧ ns ≠ [] ∧ q = ofNames ns := by
  obtain ⟨i, hi, rfl⟩ := List.mem_map.1 h
  have hi : i < p.names.length := List.mem_range.1 hi
  refine ⟨_, List.take_prefix _ _, fun he => ?_, rfl⟩
  have := congrArg List.length he
  rw [List.length_take, List.length_nil] at this
  omega

/-! ## Files that are not complete -/

theorem name?_join (p : Path) {name : String} (h : IsName name) :
    (p.join name).name? = some name := by
  rw [name?, names_join p h, List.getLast?_concat]

/-- The name that a file has until it is complete. -/
def unfinishedName (name : String) : String :=
  name ++ (if (extensionOf name).isSome then "" else ".") ++ temporaryEnding

theorem unfinishedName_of_extension {name : String} (he : (extensionOf name).isSome = true) :
    unfinishedName name = name ++ temporaryEnding := by
  rw [unfinishedName, if_pos he, String.append_empty]

theorem temporary_eq_join (p : Path) {name : String} (h : IsName name) :
    (p.join name).temporary = p.join (unfinishedName name) := by
  rw [temporary, name?_join p h, Option.bind_some, unfinishedName]
  unfold join
  split <;> simp only [String.append_assoc]

theorem temporary_join (p : Path) {name : String} (h : IsName name)
    (he : (extensionOf name).isSome = true) :
    (p.join name).temporary = p.join (name ++ temporaryEnding) := by
  rw [temporary_eq_join p h, unfinishedName_of_extension he]

/-- The name is longer then, and what is added is no slash. -/
theorem toList_unfinishedName (name : String) : ∃ tail, (unfinishedName name).toList =
    name.toList ++ tail ∧ '/' ∉ tail ∧ 4 ≤ tail.length := by
  rw [unfinishedName, String.toList_append, String.toList_append, List.append_assoc]
  refine ⟨_, rfl, ?_⟩
  split <;> decide

theorem isName_unfinishedName {name : String} (h : IsName name) : IsName (unfinishedName name) := by
  obtain ⟨tail, hlist, hslash, hlong⟩ := toList_unfinishedName name
  have hlength : 4 ≤ (unfinishedName name).toList.length := by
    rw [hlist, List.length_append]
    omega
  refine ⟨?_, ?_, ?_, ?_⟩
  · intro he
    rw [he] at hlength
    cases hlength
  · rw [hlist, List.mem_append]
    exact fun hmem => hmem.elim h.no_slash hslash
  · intro he
    rw [he] at hlength
    exact absurd hlength (by decide)
  · intro he
    rw [he] at hlength
    exact absurd hlength (by decide)

/-- The place that names lead to, where they lead anywhere. -/
def resolve (start : Place) : List String → Place
  | [] => start
  | name :: rest =>
    if name = ".." then resolve start.dropLast rest else resolve (start ++ [name]) rest

def place (p : Path) : Place := resolve [] p.names

theorem resolve_append (start : Place) (ns ms : List String) :
    resolve start (ns ++ ms) = resolve (resolve start ns) ms := by
  induction ns generalizing start with
  | nil => rfl
  | cons name ns ih =>
    rw [List.cons_append, resolve, resolve]
    split
    · exact ih _
    · exact ih _

theorem place_join (p : Path) {name : String} (h : IsName name) :
    (p.join name).place = p.place ++ [name] := by
  rw [place, names_join p h, resolve_append, resolve, if_neg h.ne_parent]
  rfl

theorem place_unfinished_ne (p : Path) {name : String} (h : IsName name) :
    (p.join name).temporary.place ≠ (p.join name).place := by
  rw [temporary_eq_join p h, place_join p h, place_join p (isName_unfinishedName h)]
  intro he
  have hsame : unfinishedName name = name := List.singleton_inj.1 (List.append_cancel_left he)
  obtain ⟨tail, hlist, -, hlong⟩ := toList_unfinishedName name
  rw [hsame] at hlist
  have hlength := congrArg List.length hlist
  rw [List.length_append] at hlength
  omega

end Path
end Quarantine
