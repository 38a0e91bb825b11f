import Quarantine.Pattern.Class

/-!
# Written patterns

    branches = items ('|' items)*
    items    = (atom count*)*
    count    = ('?' | '*' | '+' | '{' n [',' [m]] '}') ['?']
    atom     = char | '.' | '^' | '$' | escape | class | group
    group    = '(' branches ')' | '(?' flags ':' branches ')' | '(?' flags ')'
             | '(?<' name '>' branches ')' | '(?P<' name '>' branches ')'

Flags set inside a group hold to its end, across its bars.  A pattern is read together with
its depth of nesting, which is limited: a group, a count, a class, items side by side and
branches side by side each count one.
-/

namespace Quarantine.Pattern

open Quarantine.Text Reader

/-- The deepest nesting allowed. -/
def maxDepth : Nat := 250

/-! ## Items -/

/-- A tree with its depth; `countable` says whether a count may follow. -/
structure Item where
  node : Node := .empty
  depth : Nat := 0
  countable : Bool := true

/-- Items side by side. -/
def Item.ofItems (items : List Item) : Item :=
  match items with
  | [] => {}
  | [item] => { item with countable := true }
  | items => ⟨.sequence (items.map Item.node), (items.map Item.depth).foldl max 0 + 1, true⟩

/-- Branches side by side. -/
def Item.ofBranches (branches : List Item) : Item :=
  match branches with
  | [item] => item
  | branches => ⟨.choice (branches.map Item.node), (branches.map Item.depth).foldl max 0 + 1, true⟩

/-- The digits of a number, with the space between them that is allowed. -/
def countDigits : (fuel : Nat) → (digits : List Char) → Reader (List Char)
  | 0, digits => return digits.reverse
  | fuel + 1, digits => do
    match (← rest) with
    | c :: _ =>
      if c.isDigit then
        let _ ← takeSpaced
        countDigits fuel (c :: digits)
      else return digits.reverse
    | [] => return digits.reverse

/-- A number of a count, with blanks on both sides; `none` where no digit stands. -/
def countNumber : Reader (Option Nat) := do
  goTo ((← rest).dropWhile isBlank)
  let digits ← countDigits (← rest).length []
  let spaced := (← flags).spaced
  let cs := (← rest).dropWhile isBlank
  goTo (if spaced then dropSpace false cs else cs)
  match digits with
  | [] => return none
  | digits =>
    let n := digits.foldl (fun n d => n * 10 + (d.toNat - 48)) 0
    if n ≤ maxCount then return some n else refuse

/-- The least and the greatest count in braces, `{` being next. -/
def bracedCount : Reader (Nat × Option Nat) := do
  let _ ← takeSpaced
  let _ ← peek
  let least ← countNumber
  let range ← do
    if (← peek) == ',' then
      let _ ← takeSpaced
      if (← peek) == '\x7d' then pure (← ofOption least, none)
      else
        let least ← ofOption least
        pure (least, some (← ofOption (← countNumber)))
    else
      let least ← ofOption least
      pure (least, some least)
  if (← peek) != '\x7d' then refuse
  if range.2.any (· < range.1) then refuse
  return range

/-- A count, the last item being what it applies to. -/
def counted (items : List Item) : Reader (List Item) := do
  match items with
  | [] => refuse
  | item :: before =>
    if !item.countable then refuse
    let c ← peek
    let (least, most) ← do
      if c == '?' then do skip 1; pure (0, some 1)
      else if c == '*' then do skip 1; pure (0, none)
      else if c == '+' then do skip 1; pure (1, none)
      else
        let range ← bracedCount
        let _ ← takeSpaced
        pure range
    let lazy := (← rest).head? == some '?'
    if lazy then skip 1
    let greedy := lazy == (← flags).swapGreed
    return ⟨.times least most greedy item.node, item.depth + 1, true⟩ :: before

/-! ## Groups -/

/-- How a group starts. -/
inductive Opening where
  | flags (f : Flags)
  | plain (f : Flags)
  | capture (index : Nat)

/-- Whether a character may stand in the name of a group. -/
def isNameChar (c : Char) (first : Bool) : Bool :=
  if first then c == '_' || isAlphabetic c
  else c == '_' || c == '.' || c == '[' || c == ']' || isAlphanumeric c

def groupName : Reader Opening := do
  let index ← nextGroup
  let cs ← rest
  let name := cs.takeWhile (· != '>')
  goTo (cs.drop name.length)
  expect '>'
  match name with
  | [] => refuse
  | c :: more =>
    if isNameChar c true && more.all (isNameChar · false) then
      nameGroup (String.ofList name) index
      return .capture index
    else refuse

/-- The start of a group, its parenthesis being next. -/
def opening : Reader Opening := do
  let _ ← takeSpaced
  match (← rest) with
  | '?' :: '=' :: _ | '?' :: '!' :: _ | '?' :: '<' :: '=' :: _ | '?' :: '<' :: '!' :: _ => refuse
  | '?' :: 'P' :: '<' :: cs => goTo cs; groupName
  | '?' :: '<' :: cs => goTo cs; groupName
  | '?' :: cs =>
    let (f, none_, last, cs) ← ofOption (readFlags (← flags) true [] cs)
    goTo cs
    if last == ':' then return .plain f
    else if none_ then refuse
    else return .flags f
  | _ => return .capture (← nextGroup)

/-! ## Items and branches -/

/-- A single character, a dot, an anchor or an escape. -/
def atom : Reader Item := do
  let f ← flags
  match (← peek) with
  | '\\' =>
    match (← escape) with
    | .char c byte => return { node := .set (← ofOption (f.char? c byte)) }
    | .look l => return { node := .look l }
    | .set s => return { node := .set s }
  | '.' => skip 1; return { node := .set (← ofOption f.dot?) }
  | '^' => skip 1; return { node := .look (if f.multiLine then .lineStart f.crlf else .textStart) }
  | '$' => skip 1; return { node := .look (if f.multiLine then .lineEnd f.crlf else .textEnd) }
  | c => skip 1; return { node := .set (← ofOption (f.char? c false)) }

mutual

/-- Items up to a bar, a closing parenthesis or the end; those read so far come last first. -/
def readItems : (fuel : Nat) → List Item → Reader Item
  | 0, _ => refuse
  | fuel + 1, items => do
    skipSpace
    match (← rest) with
    | [] | ')' :: _ | '|' :: _ => return .ofItems items.reverse
    | '(' :: _ =>
      let outer ← flags
      match (← opening) with
      | .flags f =>
        setFlags f
        readItems fuel ({ countable := false } :: items)
      | .plain f =>
        setFlags f
        let body ← readBranches fuel
        expect ')'
        setFlags outer
        readItems fuel (⟨body.node, body.depth + 1, true⟩ :: items)
      | .capture index =>
        let body ← readBranches fuel
        expect ')'
        setFlags outer
        readItems fuel (⟨.group index body.node, body.depth + 1, true⟩ :: items)
    | '[' :: _ =>
      let part ← bracketed
      readItems fuel (⟨.set part.set, part.depth, true⟩ :: items)
    | '?' :: _ | '*' :: _ | '+' :: _ | '\x7b' :: _ =>
      readItems fuel (← counted items)
    | _ => readItems fuel ((← atom) :: items)

/-- Branches up to a closing parenthesis or the end. -/
def readBranches : (fuel : Nat) → Reader Item
  | 0 => refuse
  | fuel + 1 => return .ofBranches (← readBranchList fuel)

def readBranchList : (fuel : Nat) → Reader (List Item)
  | 0 => refuse
  | fuel + 1 => do
    let first ← readItems fuel []
    if (← rest).head? == some '|' then
      skip 1
      return first :: (← readBranchList fuel)
    else return [first]

end

/-- Reads a whole pattern: its tree, and the names of its groups. -/
def readPattern? (text : String) : Option (Node × List (String × Nat)) := do
  let cs := text.toList
  let (item, s) ← (readBranches (3 * cs.length + 3)).run { rest := cs }
  if s.rest.isEmpty && item.depth ≤ maxDepth then some (item.node, s.names) else none

end Quarantine.Pattern
