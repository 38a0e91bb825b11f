import Quarantine.Pattern.Node

/-!
# The size of a pattern

A pattern is refused when the automata that would run it over bytes take more than a fixed
room.  The forward automaton of a set of characters shares equal ends, the backward one equal
beginnings; counts are written out.

    room (seq a b)       = room a + room b
    room (r repeated n)  = n · room r

A crude bound on the room decides for nearly all patterns, so that the automata of the large
sets are laid out only for patterns near the limit.
-/

namespace Quarantine.Pattern

open Quarantine.Text

/-- The room that a pattern may take, in bytes. -/
def roomLimit : Nat := 10 * 0x100000

/-- Room of a state, of one way out of it by a byte, and of one way out by choice. -/
def stateRoom : Nat := 32
def stepRoom : Nat := 8
def choiceRoom : Nat := 4

/-! ## Byte sequences -/

/-- A range of bytes for each place of a sequence. -/
abbrev ByteSpan := List (Nat × Nat)

/-- The numbers from `lo` to `hi`, written with a first byte, raised by `lead`, and `tail`
further bytes of six bits each. -/
def spans (lead : Nat) : (tail : Nat) → (lo hi : Nat) → List ByteSpan
  | 0, lo, hi => [[(lead + lo, lead + hi)]]
  | k + 1, lo, hi =>
    let m := Nat.pow 64 (k + 1)
    let a := lo / m
    let b := hi / m
    if a = b then
      (spans 0x80 k (lo % m) (hi % m)).map ((lead + a, lead + a) :: ·)
    else
      let low := if lo % m = 0 then []
        else (spans 0x80 k (lo % m) (m - 1)).map ((lead + a, lead + a) :: ·)
      let high := if hi % m = m - 1 then []
        else (spans 0x80 k 0 (hi % m)).map ((lead + b, lead + b) :: ·)
      let a' := if lo % m = 0 then a else a + 1
      let b' := if hi % m = m - 1 then b + 1 else b
      let middle := if a' < b' then
          (spans 0x80 k 0 (m - 1)).map ((lead + a', lead + b' - 1) :: ·)
        else []
      low ++ middle ++ high

/-- The part of a range between two bounds, as byte sequences of one length. -/
def spansWithin (lead tail least greatest lo hi : Nat) : List ByteSpan :=
  if max lo least ≤ min hi greatest then spans lead tail (max lo least) (min hi greatest) else []

/-- The byte sequences of a range of characters. -/
def byteSpans (lo hi : Nat) : List ByteSpan :=
  spansWithin 0 0 0 0x7F lo hi ++ spansWithin 0xC0 1 0x80 0x7FF lo hi ++
    spansWithin 0xE0 2 0x800 0xD7FF lo hi ++ spansWithin 0xE0 2 0xE000 0xFFFF lo hi ++
    spansWithin 0xF0 3 0x10000 CharSet.maxCode lo hi

/-! ## Automata of sets -/

/-- The ways out of a state, each to a state of the table or to the end, which is 0. -/
abbrev StateRow := List ((Nat × Nat) × Nat)

/-- The number of a state, which is added unless it is there. -/
def internState (row : StateRow) (table : List StateRow) : Nat × List StateRow :=
  match table.findIdx? (· == row) with
  | some i => (i + 1, table)
  | none => (table.length + 1, table ++ [row])

/-- Lays out the states of some byte sequences, sharing equal ends. -/
def layOut : (depth : Nat) → List ByteSpan → List StateRow → Nat × List StateRow
  | 0, _, table => (0, table)
  | depth + 1, spans, table =>
    if spans.all List.isEmpty then (0, table)
    else
      let groups := spans.splitBy fun a b => a.head? == b.head?
      let (row, table) := groups.foldl (fun (row, table) group =>
        let (target, table) := layOut depth (group.map (·.drop 1)) table
        (row ++ [((group.head?.bind List.head?).getD (0, 0), target)], table)) ([], table)
      internState row table

/-- The number of different beginnings of sequences in order, the empty one left out. -/
def countBeginnings : (last : ByteSpan) → List ByteSpan → Nat
  | _, [] => 0
  | last, s :: rest => (s.length - common last s) + countBeginnings s rest
where
  common : ByteSpan → ByteSpan → Nat
    | a :: s, b :: t => if a = b then common s t + 1 else 0
    | _, _ => 0

/-- The room of a set in the forward or the backward automaton. -/
def setRoom (backward : Bool) (s : CharSet) : Nat :=
  match s.ranges with
  | [] => stateRoom
  | [(lo, hi)] => if lo = hi then (Char.ofNat lo).utf8Size * stateRoom else general s
  | _ => general s
where
  general (s : CharSet) : Nat :=
    if s.isAscii then 2 * stateRoom + s.ranges.length * stepRoom
    else
      let spans := s.ranges.flatMap fun r => byteSpans r.1 r.2
      if backward then
        (2 + countBeginnings [] spans) * stateRoom + spans.length * choiceRoom
      else
        let table := (layOut 4 spans []).2
        (1 + table.length) * stateRoom + (table.foldl (fun n row => n + row.length) 0) * stepRoom

/-- No set with this many ranges takes more room in either automaton. -/
def setRoomBound (s : CharSet) : Nat :=
  2 * stateRoom + (21 + 7 * s.ranges.length) * (4 * (stateRoom + stepRoom) + choiceRoom)

/-! ## Patterns -/

/-- The room of a tree, given the room of its sets; marks take room going forward only. -/
def room (ofSet : CharSet → Nat) (backward : Bool) : Node → Nat
  | .empty | .look _ => stateRoom
  | .set s => ofSet s
  | .mark _ => if backward then 0 else stateRoom
  | .seq a b => room ofSet backward a + room ofSet backward b
  | .alt a b => room ofSet backward a + room ofSet backward b + 2 * stateRoom + 2 * choiceRoom
  | .repeated least most _ body =>
    let r := room ofSet backward body
    let fork := stateRoom + 2 * choiceRoom
    match most with
    | some most => least * r + (if least = most then 0 else (most - least) * (r + fork) + stateRoom)
    | none => max least 1 * r + fork + (if body.canBeEmpty then fork + stateRoom else 0)
  | .again _ body => room ofSet backward body

def fits (n : Node) : Bool :=
  room setRoomBound false n ≤ roomLimit ||
    (room (setRoom false) false n ≤ roomLimit && room (setRoom true) true n ≤ roomLimit)

end Quarantine.Pattern
