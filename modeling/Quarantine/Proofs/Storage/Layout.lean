import Quarantine.Proofs.Storage.PartTable
import Quarantine.Storage.Layout

/-!
# Places under a root

What a run keeps is at a few kinds of places under its root, and no two of them are the same.

    place (partPath (table l k) id) = root ++ names k ++ [partName id]
    at l a = at l b                ↔ a = b

The way to the directory of a table goes through the root, and below it through directories of
tables only.
-/

namespace Quarantine

open Quarantine.Disk

/-! ## Tables -/

/-- The tables of a run. -/
inductive TableKind where
  | clean
  | quarantine
  | processed
  | entries
  | metrics
  deriving DecidableEq

namespace TableKind

/-- The names from the root to the directory of a table. -/
def names : TableKind → List String
  | clean => ["clean"]
  | quarantine => ["quarantine"]
  | processed => ["clean_processed"]
  | entries => ["system", "events"]
  | metrics => ["metrics"]

/-- The tables in the order in which the parts of a batch are written. -/
def all : List TableKind := [clean, quarantine, processed, entries, metrics]

theorem mem_all (k : TableKind) : k ∈ all := by
  cases k <;> decide

theorem names_injective {k k' : TableKind} (h : k.names = k'.names) : k = k' := by
  cases k <;> cases k' <;> first | rfl | exact absurd h (by decide)

theorem names_ne_nil (k : TableKind) : k.names ≠ [] := by
  cases k <;> exact List.cons_ne_nil _ _

end TableKind

namespace Layout

def table (l : Layout) : TableKind → PartTable
  | .clean => l.clean
  | .quarantine => l.quarantine
  | .processed => l.processed
  | .entries => l.entries
  | .metrics => l.metrics

/-- The directory of a table is named under another directory. -/
theorem exists_directory_table (l : Layout) (k : TableKind) :
    ∃ (p : Path) (name : String), Path.IsName name ∧ (l.table k).directory = p.join name := by
  cases k <;> exact ⟨_, _, by decide, rfl⟩

theorem place_table (l : Layout) (k : TableKind) :
    (l.table k).directory.place = l.root.place ++ k.names := by
  cases k with
  | entries =>
    show ((l.root.join "system").join "events").place = _
    rw [Path.place_join _ (by decide), Path.place_join _ (by decide), List.append_assoc]
    rfl
  | clean | quarantine | processed | metrics => exact Path.place_join _ (by decide)

theorem names_table (l : Layout) (k : TableKind) :
    (l.table k).directory.names = l.root.names ++ k.names := by
  cases k with
  | entries =>
    show ((l.root.join "system").join "events").names = _
    rw [Path.names_join _ (by decide), Path.names_join _ (by decide), List.append_assoc]
    rfl
  | clean | quarantine | processed | metrics => exact Path.names_join _ (by decide)

theorem mem_tables {l : Layout} {t : PartTable} (h : t ∈ l.tables) : ∃ k, t = l.table k := by
  simp only [tables, List.mem_cons, List.not_mem_nil, or_false] at h
  rcases h with rfl | rfl | rfl | rfl | rfl
  · exact ⟨.clean, rfl⟩
  · exact ⟨.quarantine, rfl⟩
  · exact ⟨.processed, rfl⟩
  · exact ⟨.metrics, rfl⟩
  · exact ⟨.entries, rfl⟩

theorem table_mem_tables (l : Layout) (k : TableKind) : l.table k ∈ l.tables := by
  cases k <;> simp [table, tables]

end Layout

/-! ## Slots -/

/-- The kinds of places under a root. -/
inductive Slot where
  | directory (k : TableKind)
  /-- The directory that the directory of the entries is in. -/
  | system
  | part (k : TableKind) (id : Nat)
  /-- A part that is not complete. -/
  | unfinished (k : TableKind) (id : Nat)
  | checkpoint
  | unfinishedCheckpoint

namespace Slot

open PartTable

def names : Slot → Place
  | directory k => k.names
  | system => ["system"]
  | part k id => k.names ++ [partName id]
  | unfinished k id => k.names ++ [temporaryName id]
  | checkpoint => ["_checkpoint.json"]
  | unfinishedCheckpoint => ["_checkpoint.json.tmp"]

/-- What a run keeps at a place: a directory or a file. -/
def kind : Slot → Kind
  | directory _ | system => .directory
  | part _ _ | unfinished _ _ | checkpoint | unfinishedCheckpoint => .file

theorem names_ne_nil (a : Slot) : a.names ≠ [] := by
  cases a <;> simp [names, TableKind.names_ne_nil]

/-- The first and the last character of the last name. -/
def ends (ns : Place) : Option Char × Option Char :=
  ((ns.getLast?.bind (·.toList.head?)), (ns.getLast?.bind (·.toList.getLast?)))

theorem ends_concat (ns : Place) (name : String) :
    ends (ns ++ [name]) = (name.toList.head?, name.toList.getLast?) := by
  rw [ends, List.getLast?_concat]
  rfl

theorem ends_part (k : TableKind) (id : Nat) :
    ends (part k id).names = (some 'p', some 'n') := by
  rw [names, ends_concat, head?_partName, getLast?_partName]

theorem ends_unfinished (k : TableKind) (id : Nat) :
    ends (unfinished k id).names = (some 'p', some 'p') := by
  rw [names, ends_concat, toList_temporaryName, List.head?_append, head?_partName,
    List.getLast?_append]
  rfl

/-- A place that a run keeps nothing else at. -/
theorem names_injective {a b : Slot} (h : a.names = b.names) : a = b := by
  have hends := congrArg ends h
  cases a with
  | part k id =>
    rw [ends_part] at hends
    cases b with
    | part k' id' =>
      have h : k.names ++ [partName id] = k'.names ++ [partName id'] := h
      obtain ⟨hk, hid⟩ := List.append_inj' h (by simp only [List.length_singleton])
      rw [TableKind.names_injective hk, partName_injective (List.singleton_inj.1 hid)]
    | unfinished k' id' =>
      rw [ends_unfinished] at hends
      exact absurd hends (by decide)
    | directory k' => cases k' <;> exact absurd hends (by decide)
    | system | checkpoint | unfinishedCheckpoint => exact absurd hends (by decide)
  | unfinished k id =>
    rw [ends_unfinished] at hends
    cases b with
    | part k' id' =>
      rw [ends_part] at hends
      exact absurd hends (by decide)
    | unfinished k' id' =>
      have h : k.names ++ [temporaryName id] = k'.names ++ [temporaryName id'] := h
      obtain ⟨hk, hid⟩ := List.append_inj' h (by simp only [List.length_singleton])
      rw [TableKind.names_injective hk, temporaryName_injective (List.singleton_inj.1 hid)]
    | directory k' => cases k' <;> exact absurd hends (by decide)
    | system | checkpoint | unfinishedCheckpoint => exact absurd hends (by decide)
  | directory k =>
    cases b with
    | part k' id' =>
      rw [ends_part] at hends
      cases k <;> exact absurd hends (by decide)
    | unfinished k' id' =>
      rw [ends_unfinished] at hends
      cases k <;> exact absurd hends (by decide)
    | directory k' => rw [TableKind.names_injective h]
    | system | checkpoint | unfinishedCheckpoint => cases k <;> exact absurd h (by decide)
  | system | checkpoint | unfinishedCheckpoint =>
    cases b with
    | part k' id' =>
      rw [ends_part] at hends
      exact absurd hends (by decide)
    | unfinished k' id' =>
      rw [ends_unfinished] at hends
      exact absurd hends (by decide)
    | directory k' => cases k' <;> exact absurd h (by decide)
    | system | checkpoint | unfinishedCheckpoint =>
      first | rfl | exact absurd h (by decide)

/-- What is directly in the directory of a table is a part, complete or not. -/
theorem eq_of_names_eq_concat {a : Slot} {k : TableKind} {name : String}
    (h : a.names = k.names ++ [name]) : (∃ id, a = part k id ∧ name = partName id) ∨
      ∃ id, a = unfinished k id ∧ name = temporaryName id := by
  cases a with
  | part k' id =>
    have h : k'.names ++ [partName id] = k.names ++ [name] := h
    obtain ⟨hk, hn⟩ := List.append_inj' h (by simp only [List.length_singleton])
    rw [TableKind.names_injective hk]
    exact .inl ⟨id, rfl, (List.singleton_inj.1 hn).symm⟩
  | unfinished k' id =>
    have h : k'.names ++ [temporaryName id] = k.names ++ [name] := h
    obtain ⟨hk, hn⟩ := List.append_inj' h (by simp only [List.length_singleton])
    rw [TableKind.names_injective hk]
    exact .inr ⟨id, rfl, (List.singleton_inj.1 hn).symm⟩
  | directory k' => cases k' <;> cases k <;> simp [names, TableKind.names] at h
  | system | checkpoint | unfinishedCheckpoint =>
    cases k <;> simp [names, TableKind.names] at h

end Slot

namespace Layout

/-- The place of a slot. -/
def placeOf (l : Layout) (a : Slot) : Place := l.root.place ++ a.names

theorem placeOf_inj {l : Layout} {a b : Slot} : l.placeOf a = l.placeOf b ↔ a = b :=
  ⟨fun h => Slot.names_injective (List.append_cancel_left h), congrArg l.placeOf⟩

theorem place_directory (l : Layout) (k : TableKind) :
    (l.table k).directory.place = l.placeOf (.directory k) := l.place_table k

theorem place_part (l : Layout) (k : TableKind) (id : Nat) :
    ((l.table k).partPath id).place = l.placeOf (.part k id) := by
  rw [PartTable.place_partPath, place_table, List.append_assoc]
  rfl

theorem place_unfinished (l : Layout) (k : TableKind) (id : Nat) :
    ((l.table k).partPath id).temporary.place = l.placeOf (.unfinished k id) := by
  rw [PartTable.place_temporary, place_table, List.append_assoc]
  rfl

theorem place_checkpoint (l : Layout) : l.checkpoint.place = l.placeOf .checkpoint :=
  Path.place_join _ (by decide)

theorem place_unfinishedCheckpoint (l : Layout) :
    l.checkpoint.temporary.place = l.placeOf .unfinishedCheckpoint := by
  rw [checkpoint, Path.temporary_join _ (by decide) (by decide)]
  exact Path.place_join _ (by decide)

/-- That a place is on the way to the directory of a table. -/
def OnWay (l : Layout) (pl : Place) : Prop := ∃ k, (l.table k).directory.OnWay pl

/-- The way to the directory of a table: to the root, and then to directories of tables. -/
theorem onWay_cases {l : Layout} {pl : Place} (h : l.OnWay pl) : l.root.OnWay pl ∨
    pl = l.placeOf .system ∨ ∃ k, pl = l.placeOf (.directory k) := by
  obtain ⟨k, h⟩ := h
  cases k with
  | entries =>
    rcases Path.OnWay.join (by decide) h with h | hpl
    · exact (Path.OnWay.join (by decide) h).imp_right .inl
    · refine .inr (.inr ⟨.entries, ?_⟩)
      rw [← place_directory, hpl]
      exact (Path.place_join _ (by decide)).symm
  | clean => exact (Path.OnWay.join (by decide) h).imp_right fun h => .inr ⟨.clean, h⟩
  | quarantine => exact (Path.OnWay.join (by decide) h).imp_right fun h => .inr ⟨.quarantine, h⟩
  | processed => exact (Path.OnWay.join (by decide) h).imp_right fun h => .inr ⟨.processed, h⟩
  | metrics => exact (Path.OnWay.join (by decide) h).imp_right fun h => .inr ⟨.metrics, h⟩

end Layout
end Quarantine
