import Quarantine.Pattern.Matcher
import Quarantine.Pattern.Parser
import Quarantine.Pattern.Size

/-!
# Patterns

A compiled pattern, and what is asked of it: whether a text has a match, the text of a group
of the first match, and the text with all matches replaced.  In a replacement a dollar sign
names a group.

    $name      the longest run of ASCII letters, digits and underscores
    ${name}    anything up to the closing brace
    $$         a dollar sign

A name that is a number is a group by number; one that no group has stands for nothing.
-/

namespace Quarantine

/-- A pattern that was read and is not too large. -/
structure Pattern where
  source : String
  node : Pattern.Node
  names : List (String × Nat)
  deriving DecidableEq, Inhabited

namespace Pattern

/-- Reads a pattern; `none` for one that is not well formed or too large. -/
def compile? (source : String) : Option Pattern := do
  let (node, names) ← readPattern? source
  if fits node then some ⟨source, node, names⟩ else none

/-- The number of groups, without the whole match. -/
def groups (p : Pattern) : Nat := p.node.groupCount - 1

/-- The first match of a text. -/
def find? (p : Pattern) (text : String) : Option Marks :=
  search p.node none 0 text.toList

def isMatch (p : Pattern) (text : String) : Bool := (p.find? text).isSome

/-- The characters from one place to another. -/
def slice (cs : List Char) (start stop : Nat) : List Char := (cs.drop start).take (stop - start)

/-- The text of a group of a match, if the group took part. -/
def groupText? (cs : List Char) (marks : Marks) (i : Nat) : Option (List Char) :=
  (marks.group? i).map fun (a, b) => slice cs a b

/-- The text of a group of the first match; empty without a match or without the group. -/
def extract (p : Pattern) (text : String) (i : Nat) : String :=
  match p.find? text with
  | some marks => String.ofList ((groupText? text.toList marks i).getD [])
  | none => ""

/-! ## Replacement -/

/-- A part of a replacement. -/
inductive Insert where
  | char (c : Char)
  | group (name : List Char)
  deriving DecidableEq

/-- The parts of a replacement, `skip` characters of which are read already. -/
def inserts (skip : Nat) : List Char → List Insert
  | [] => []
  | c :: cs =>
    match skip with
    | skip + 1 => inserts skip cs
    | 0 =>
      if c != '$' then .char c :: inserts 0 cs
      else
        match cs with
        | '$' :: _ => .char '$' :: inserts 1 cs
        | '\x7b' :: more =>
          let name := more.takeWhile (· != '\x7d')
          if name.length < more.length then .group name :: inserts (name.length + 2) cs
          else .char '$' :: inserts 0 cs
        | _ =>
          let name := cs.takeWhile isAsciiWord
          if name.isEmpty then .char '$' :: inserts 0 cs
          else .group name :: inserts name.length cs

/-- The largest number of a group. -/
def maxGroup : Nat := 0xFFFFFFFFFFFFFFFF

/-- The value of decimal digits. -/
def decimal (cs : List Char) : Nat := cs.foldl (fun n c => n * 10 + (c.toNat - 48)) 0

/-- A group name that is a number; it may have a plus sign and leading zeros. -/
def groupNumber? (name : List Char) : Option Nat :=
  let digits := match name with
    | '+' :: more => more
    | name => name
  if digits.isEmpty || !digits.all Char.isDigit || decimal digits > maxGroup then none
  else some (decimal digits)

/-- The text of a part for a match. -/
def insertText (p : Pattern) (cs : List Char) (marks : Marks) : Insert → List Char
  | .char c => [c]
  | .group name =>
    let index? := (groupNumber? name).or (p.names.lookup (String.ofList name))
    ((index?.bind (groupText? cs marks)).getD [])

/-- The text from place `pos` on with the matches replaced. -/
def replaceFrom (p : Pattern) (cs : List Char) (parts : List Insert) (pos : Nat) :
    List Marks → List Char
  | [] => cs.drop pos
  | m :: ms =>
    match m.group? 0 with
    | none => cs.drop pos
    | some (start, stop) =>
      slice cs pos start ++ parts.flatMap (p.insertText cs m) ++ replaceFrom p cs parts stop ms

/-- The text with every match replaced. -/
def replaceAll (p : Pattern) (text replacement : String) : String :=
  let cs := text.toList
  String.ofList (replaceFrom p cs (inserts 0 replacement.toList) 0 (allMatches p.node cs))

end Pattern
end Quarantine
