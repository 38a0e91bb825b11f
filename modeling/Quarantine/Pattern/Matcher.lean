import Quarantine.Pattern.Node

/-!
# Matching

A pattern is run by its moves.  At a place of the text a tree can leave, or read one character
of a set and go on with a stack of trees; `moves` lists these in order of preference, with the
marks passed on the way.

    moves (seq a b)  = moves a, with the moves of b where a leaves
    moves (alt a b)  = moves a, then moves b
    run              = read character by character; of the threads that leave, the preferred one

Only the first way to leave is kept: later ones have the same future and are not preferred.
`search` tries each place of the text from the left.
-/

namespace Quarantine.Pattern

open Quarantine.Text

/-! ## Moves -/

inductive Move where
  | leave (slots : List Nat)
  | read (slots : List Nat) (set : CharSet) (rest : List Node)
  deriving DecidableEq

namespace Move

def leaves : Move → Bool
  | leave _ => true
  | read .. => false

/-- The move after the given slots have been marked. -/
def after (slots : List Nat) : Move → Move
  | leave s => leave (slots ++ s)
  | read s set rest => read (slots ++ s) set rest

/-- The move with more to do once its character has been read. -/
def before (more : List Node) : Move → Move
  | leave s => leave s
  | read s set rest => read s set (rest ++ more)

end Move

/-- Two lists of moves in order of preference. -/
def preferred (xs ys : List Move) : List Move :=
  if xs.any Move.leaves then xs ++ ys.filter (!·.leaves) else xs ++ ys

/-- The moves `xs`, where leaving goes on with `ys`, the moves of `rest`. -/
def followed (xs : List Move) (rest : List Node) (ys : Unit → List Move) : List Move :=
  xs.flatMap fun m =>
    match m with
    | .leave slots => (ys ()).map (·.after slots)
    | .read slots set more => [.read slots set (more ++ rest)]

/-- The choice between going on with `xs` and leaving. -/
def orLeave (greedy : Bool) (xs : List Move) : List Move :=
  if greedy then preferred xs [.leave []] else .leave [] :: xs.filter (!·.leaves)

/-- Up to `n` rounds of a body with the moves `ms`. -/
def upToMoves (ms : List Move) (greedy : Bool) (body : Node) : Nat → List Move
  | 0 => [.leave []]
  | n + 1 => orLeave greedy
      (followed ms [.repeated 0 (some n) greedy body] fun _ => upToMoves ms greedy body n)

/-- Rounds of a body with the moves `ms`, `least` of them at the least. -/
def repeatMoves (ms : List Move) (greedy : Bool) (body : Node) : Nat → Option Nat → List Move
  | 0, some n => upToMoves ms greedy body n
  | 0, none => orLeave greedy (ms.map (·.before [.again greedy body]))
  | 1, none => ms.map (·.before [.again greedy body])
  | n + 1, most =>
    let fewer := most.map (· - 1)
    followed ms [.repeated n fewer greedy body] fun _ => repeatMoves ms greedy body n fewer

def moves (here : Place) : Node → List Move
  | .empty => [.leave []]
  | .set s => [.read [] s []]
  | .look l => if l.holds here then [.leave []] else []
  | .mark slot => [.leave [slot]]
  | .seq a b => followed (moves here a) [b] fun _ => moves here b
  | .alt a b => preferred (moves here a) (moves here b)
  | .repeated least most greedy body => repeatMoves (moves here body) greedy body least most
  | .again greedy body =>
    orLeave greedy (((moves here body).filter (!·.leaves)).map (·.before [.again greedy body]))

/-- The moves of a stack of trees, the first on top. -/
def stackMoves (here : Place) : List Node → List Move
  | [] => [.leave []]
  | n :: rest => followed (moves here n) rest fun _ => stackMoves here rest

/-! ## Threads -/

/-- The places recorded for slots, the latest first. -/
abbrev Marks := List (Nat × Nat)

structure Thread where
  marks : Marks
  stack : List Node
  deriving DecidableEq

/-- The marks with a place recorded for each of the slots. -/
def Marks.put (marks : Marks) (pos : Nat) (slots : List Nat) : Marks :=
  slots.foldl (fun m slot => (slot, pos) :: m) marks

/-- A thread's wish to read: the marks so far, the set, and what follows. -/
structure Wish where
  marks : Marks
  set : CharSet
  rest : List Node
  deriving DecidableEq

/-- The wishes of the threads up to the first that leaves, and the marks it leaves with. -/
def wishes (here : Place) (pos : Nat) : List Thread → List Wish × Option Marks
  | [] => ([], none)
  | t :: ts =>
    let (own, left) := split t.marks (stackMoves here t.stack)
    match left with
    | some marks => (own, some marks)
    | none =>
      let (others, left) := wishes here pos ts
      (own ++ others, left)
where
  split (marks : Marks) : List Move → List Wish × Option Marks
    | [] => ([], none)
    | .leave slots :: _ => ([], some (marks.put pos slots))
    | .read slots set rest :: ms =>
      let (own, left) := split marks ms
      (⟨marks.put pos slots, set, rest⟩ :: own, left)

/-- Keeps the first of several wishes with one future. -/
def distinct : List Wish → List (List Node) → List Thread
  | [], _ => []
  | w :: ws, seen =>
    if seen.contains w.rest then distinct ws seen else ⟨w.marks, w.rest⟩ :: distinct ws (w.rest :: seen)

/-- Runs threads over the text from a place on; `none` when no thread ever leaves. -/
def run (before : Option Char) (pos : Nat) (threads : List Thread) : List Char → Option Marks
  | [] => (wishes ⟨before, none⟩ pos threads).2
  | c :: cs =>
    let (ws, left) := wishes ⟨before, some c⟩ pos threads
    let next := distinct (ws.filter (·.set.contains c)) []
    if next.isEmpty then left
    else
      match run (some c) (pos + 1) next cs with
      | some marks => some marks
      | none => left

/-- The first match at or after a place of the text. -/
def search (node : Node) (before : Option Char) (pos : Nat) (cs : List Char) : Option Marks :=
  match run before pos [⟨[], [.group 0 node]⟩] cs with
  | some marks => some marks
  | none =>
    match cs with
    | [] => none
    | c :: rest => search node (some c) (pos + 1) rest

/-- The places at which a group starts and ends. -/
def Marks.group? (marks : Marks) (i : Nat) : Option (Nat × Nat) :=
  match marks.lookup (2 * i), marks.lookup (2 * i + 1) with
  | some a, some b => some (a, b)
  | _, _ => none

/-! ## All matches -/

/-- The matches from a place on, none overlapping the one before, which ended at `last`; an
empty match at `last` is passed over. -/
def allFrom (node : Node) :
    (fuel : Nat) → (last : Option Nat) → Option Char → Nat → List Char → List Marks
  | 0, _, _, _, _ => []
  | fuel + 1, last, before, pos, cs =>
    let found :=
      match search node before pos cs with
      | none => none
      | some m =>
        match m.group? 0, cs with
        | some (a, b), c :: rest =>
          if a = b ∧ some b = last then search node (some c) (pos + 1) rest else some m
        | some (a, b), [] => if a = b ∧ some b = last then none else some m
        | none, _ => none
    match found with
    | none => []
    | some m =>
      match m.group? 0 with
      | none => []
      | some (_, stop) =>
        let passed := cs.take (stop - pos)
        let before := if passed.isEmpty then before else passed.getLast?
        m :: allFrom node fuel (some stop) before stop (cs.drop (stop - pos))

/-- All matches of a text, from the left. -/
def allMatches (node : Node) (cs : List Char) : List Marks :=
  allFrom node (cs.length + 2) none none 0 cs

end Quarantine.Pattern
