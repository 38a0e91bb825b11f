import Quarantine.Pattern.Escape

/-!
# Bracketed classes

    class  = '[' ['^'] '-'* [']'] item* (op item*)* ']'
    item   = char | char '-' char | escape | '[:' ['^'] name ':]' | class
    op     = '&&' | '--' | '~~'

Operators group to the left.  A class is read together with its depth of nesting: one more
than its deepest part, where several items side by side, an operator and a bracket each count.
-/

namespace Quarantine.Pattern

open Quarantine.Text Reader

/-! ## Parts -/

inductive ClassOp where
  | inter
  | diff
  | symmDiff

def ClassOp.apply : ClassOp → CharSet → CharSet → CharSet
  | .inter => CharSet.inter
  | .diff => CharSet.diff
  | .symmDiff => CharSet.symmDiff

/-- A part of a class: its set and its depth. -/
structure ClassPart where
  set : CharSet := .empty
  depth : Nat := 0

/-- Items side by side. -/
structure ClassItems where
  set : CharSet := .empty
  count : Nat := 0
  depth : Nat := 0

def ClassItems.add (items : ClassItems) (set : CharSet) (depth : Nat) : ClassItems :=
  ⟨items.set.union set, items.count + 1, max items.depth depth⟩

def ClassItems.part (items : ClassItems) : ClassPart :=
  ⟨items.set, if items.count > 1 then items.depth + 1 else items.depth⟩

/-- The items, as the right side of the operator that waits for one. -/
def ClassItems.close (items : ClassItems) (f : Flags) :
    Option (ClassOp × ClassPart) → ClassPart
  | none => items.part
  | some (op, left) =>
    let right := items.part
    ⟨op.apply (f.fold left.set) (f.fold right.set), max left.depth right.depth + 1⟩

/-- The classes with a name of their own, ASCII characters only. -/
def namedClass? : String → Option CharSet
  | "alnum" => some ⟨[(0x30, 0x39), (0x41, 0x5A), (0x61, 0x7A)]⟩
  | "alpha" => some ⟨[(0x41, 0x5A), (0x61, 0x7A)]⟩
  | "ascii" => some ⟨[(0, 0x7F)]⟩
  | "blank" => some ⟨[(0x09, 0x09), (0x20, 0x20)]⟩
  | "cntrl" => some ⟨[(0, 0x1F), (0x7F, 0x7F)]⟩
  | "digit" => some ⟨[(0x30, 0x39)]⟩
  | "graph" => some ⟨[(0x21, 0x7E)]⟩
  | "lower" => some ⟨[(0x61, 0x7A)]⟩
  | "print" => some ⟨[(0x20, 0x7E)]⟩
  | "punct" => some ⟨[(0x21, 0x2F), (0x3A, 0x40), (0x5B, 0x60), (0x7B, 0x7E)]⟩
  | "space" => some ⟨[(0x09, 0x0D), (0x20, 0x20)]⟩
  | "upper" => some ⟨[(0x41, 0x5A)]⟩
  | "word" => some ⟨[(0x30, 0x39), (0x41, 0x5A), (0x5F, 0x5F), (0x61, 0x7A)]⟩
  | "xdigit" => some ⟨[(0x30, 0x39), (0x41, 0x46), (0x61, 0x66)]⟩
  | _ => none

/-- A named class after its `[`: whether it is negated, its set, and the rest.  Anything else
that starts so is a class in brackets. -/
def namedItem? : List Char → Option (Bool × CharSet × List Char)
  | ':' :: cs =>
    let negated := cs.head? == some '^'
    let cs := if negated then cs.drop 1 else cs
    let name := cs.takeWhile (· != ':')
    match cs.dropWhile (· != ':') with
    | ':' :: ']' :: more => (namedClass? (String.ofList name)).map (negated, ·, more)
    | _ => none
  | _ => none

/-! ## Reading -/

/-- Hyphens at the start of a class, which stand for themselves. -/
def leadingHyphens : (fuel : Nat) → ClassItems → Reader ClassItems
  | 0, items => return items
  | fuel + 1, items => do
    if (← peek) == '-' then
      let _ ← takeSpaced
      leadingHyphens fuel (items.add (.singleton '-') 0)
    else return items

/-- The start of a class, `[` being next: whether it is negated, and the items at its head. -/
def classStart : Reader (Bool × ClassItems) := do
  let _ ← takeSpaced
  let negated := (← peek) == '^'
  if negated then let _ ← takeSpaced
  let items ← leadingHyphens (← rest).length {}
  if items.count == 0 && (← peek) == ']' then
    let _ ← takeSpaced
    let _ ← peek
    return (negated, items.add (.singleton ']') 0)
  else
    let _ ← peek
    return (negated, items)

/-- One end of a range, or an item of its own. -/
def classItem : Reader Escape := do
  if (← peek) == '\\' then escape else return .char (← take) false

/-- The character that an end of a range stands for.  Without the `u` flag it is ASCII. -/
def rangeEnd (f : Flags) : Escape → Option Char
  | .char c _ => if f.unicode || c.toNat < 0x80 then some c else none
  | _ => none

/-- What comes after the next character and the space behind it; a `#` in that space is
passed, and what it starts is looked at. -/
def beyondSpace (f : Flags) (cs : List Char) : Option Char :=
  if f.spaced then
    match (cs.drop 1).dropWhile isBlank with
    | '#' :: more => (more.dropWhile isBlank).head?
    | more => more.head?
  else (cs.drop 1).head?

/-- A character, a range of characters, or an escape. -/
def classRange : Reader CharSet := do
  let f ← flags
  let first ← classItem
  skipSpace
  let cs ← rest
  let next ← peek
  let after := beyondSpace f cs
  if next != '-' || after == some ']' || after == some '-' then
    match first with
    | .set s => return s
    | .look _ => refuse
    | .char .. => return .singleton (← ofOption (rangeEnd f first))
  else
    let _ ← takeSpaced
    let _ ← peek
    let last ← classItem
    let lo ← ofOption (rangeEnd f first)
    let hi ← ofOption (rangeEnd f last)
    if lo ≤ hi then return ⟨[(lo.toNat, hi.toNat)]⟩ else refuse

/-- The rest of a class up to its closing bracket. -/
def classBody : (fuel : Nat) → ClassItems → Option (ClassOp × ClassPart) → Reader ClassPart
  | 0, _, _ => refuse
  | fuel + 1, items, pending => do
    skipSpace
    let f ← flags
    match (← rest) with
    | [] => refuse
    | ']' :: _ =>
      skip 1
      return items.close f pending
    | '&' :: '&' :: _ =>
      skip 2
      classBody fuel {} (some (.inter, items.close f pending))
    | '-' :: '-' :: _ =>
      skip 2
      classBody fuel {} (some (.diff, items.close f pending))
    | '~' :: '~' :: _ =>
      skip 2
      classBody fuel {} (some (.symmDiff, items.close f pending))
    | '[' :: more =>
      match namedItem? more with
      | some (negated, set, cs) =>
        goTo cs
        let set ← ofOption (f.close? negated set)
        classBody fuel (items.add set 0) pending
      | none =>
        let (negated, inner) ← classStart
        let part ← classBody fuel inner none
        let set ← ofOption (f.close? negated part.set)
        classBody fuel (items.add set (part.depth + 1)) pending
    | _ =>
      let set ← classRange
      classBody fuel (items.add set 0) pending

/-- A class, its opening bracket being next. -/
def bracketed : Reader ClassPart := do
  let (negated, items) ← classStart
  let part ← classBody ((← rest).length + 1) items none
  return ⟨← ofOption ((← flags).close? negated part.set), part.depth + 1⟩

end Quarantine.Pattern
