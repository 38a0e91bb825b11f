import Quarantine.Text.Alphabet

/-!
# Pattern trees

The tree that a written pattern denotes.  A look reads nothing and asks about the characters
on its two sides; a mark reads nothing and records the place; a repetition carries its least
and greatest count and whether it prefers to go on.

    group i r = mark (2i) · r · mark (2i+1)

`again` is what a repetition without a greatest count becomes once its body has been read: a
further round that reads nothing does not count as one.
-/

namespace Quarantine.Pattern

open Quarantine.Text

/-! ## Looks -/

/-- What a word look asks about the sides: `before` and `after` say which is a word character. -/
inductive WordEdge where
  | boundary
  | inside
  | opening
  | closing
  | openingHalf
  | closingHalf
  deriving DecidableEq

def WordEdge.holds : WordEdge → (before after : Bool) → Bool
  | .boundary, b, a => b != a
  | .inside, b, a => b == a
  | .opening, b, a => !b && a
  | .closing, b, a => b && !a
  | .openingHalf, b, _ => !b
  | .closingHalf, _, a => !a

/-- A condition on a place of the text.  With `crlf` a carriage return, a line feed or the pair
ends a line, and no line ends inside the pair. -/
inductive Look where
  | textStart
  | textEnd
  | lineStart (crlf : Bool)
  | lineEnd (crlf : Bool)
  | word (edge : WordEdge) (ascii : Bool)
  deriving DecidableEq

/-- The characters on both sides of a place. -/
structure Place where
  before : Option Char
  after : Option Char
  deriving DecidableEq

def isAsciiWord (c : Char) : Bool := c.isAlphanum || c == '_'

def Look.holds (here : Place) : Look → Bool
  | .textStart => here.before.isNone
  | .textEnd => here.after.isNone
  | .lineStart false => here.before.all (· == '\n')
  | .lineStart true => here.before.all fun c => c == '\n' || (c == '\r' && here.after != some '\n')
  | .lineEnd false => here.after.all (· == '\n')
  | .lineEnd true => here.after.all fun c => c == '\r' || (c == '\n' && here.before != some '\r')
  | .word edge ascii =>
    let isIn := if ascii then isAsciiWord else isWord
    edge.holds (here.before.any isIn) (here.after.any isIn)

/-! ## Trees -/

inductive Node where
  | empty
  | set (s : CharSet)
  | look (l : Look)
  | mark (slot : Nat)
  | seq (a b : Node)
  | alt (a b : Node)
  | repeated (least : Nat) (most : Option Nat) (greedy : Bool) (body : Node)
  | again (greedy : Bool) (body : Node)
  deriving DecidableEq, Inhabited

namespace Node

def group (index : Nat) (body : Node) : Node :=
  seq (mark (2 * index)) (seq body (mark (2 * index + 1)))

def char (c : Char) : Node := set (.singleton c)

/-- The nodes one after the other. -/
def sequence : List Node → Node
  | [] => empty
  | [n] => n
  | n :: rest => seq n (sequence rest)

/-- The nodes as choices, the first preferred. -/
def choice : List Node → Node
  | [] => empty
  | [n] => n
  | n :: rest => alt n (choice rest)

/-- A repetition; one that may not happen at all is empty and loses its groups. -/
def times (least : Nat) (most : Option Nat) (greedy : Bool) (body : Node) : Node :=
  if most = some 0 then empty else repeated least most greedy body

/-- One more than the largest group that the tree records, the whole match being group 0. -/
def groupCount : Node → Nat
  | empty | set _ | look _ => 1
  | mark slot => slot / 2 + 1
  | seq a b | alt a b => max a.groupCount b.groupCount
  | repeated _ _ _ r | again _ r => r.groupCount

/-- Whether some text of no character may match, looks taken as passed. -/
def canBeEmpty : Node → Bool
  | empty | look _ | mark _ | again _ _ => true
  | set _ => false
  | seq a b => a.canBeEmpty && b.canBeEmpty
  | alt a b => a.canBeEmpty || b.canBeEmpty
  | repeated least _ _ r => least == 0 || r.canBeEmpty

end Node
end Quarantine.Pattern
