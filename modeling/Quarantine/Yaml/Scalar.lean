import Quarantine.Yaml.Cursor

/-!
# Scalars of a YAML text

Plain scalars, scalars in quotes, and block scalars.  In the first two a single line break
between the lines of a scalar is read as a space, and of several all but the first are kept.
A block scalar keeps its breaks if it is literal; folded, it treats a break between two lines
that start without a blank in the same way.
-/

namespace Quarantine.Yaml

/-! ## Folding -/

/-- The space between two parts of a scalar: blanks within a line, or line breaks. -/
structure Gap where
  blanks : List Char := []
  firstBreak : List Char := []
  moreBreaks : List Char := []
  broken : Bool := false

/-- What a gap is read as. -/
def Gap.text (g : Gap) : List Char :=
  if g.broken then
    if g.firstBreak == ['\n'] then (if g.moreBreaks.isEmpty then [' '] else g.moreBreaks)
    else g.firstBreak ++ g.moreBreaks
  else g.blanks

/-- Reads blanks and breaks.  `tooFar` refuses a tab where indentation is expected. -/
def readGap (tooFar : Cursor → Bool) : (fuel : Nat) → Gap → Cursor → Option (Gap × Cursor)
  | 0, _, _ => none
  | fuel + 1, g, c =>
    if c.blankAt 0 then
      if g.broken then
        if c.has 0 '\t' && tooFar c then none else readGap tooFar fuel g (c.skip 1)
      else readGap tooFar fuel { g with blanks := g.blanks ++ c.rest.take 1 } (c.skip 1)
    else if c.breakAt 0 then
      let (next, b) := c.skipBreak
      if g.broken then readGap tooFar fuel { g with moreBreaks := g.moreBreaks ++ b } next
      else readGap tooFar fuel { firstBreak := b, broken := true } next
    else some (g, c)

/-! ## Plain scalars -/

/-- The characters that end a plain scalar inside brackets or braces. -/
def isFlowMark (c : Char) : Bool := c == ',' || c == '[' || c == ']' || c == '\x7b' || c == '\x7d'

/-- The characters of a plain scalar up to the next gap or the end of the scalar. -/
def plainRun (inFlow : Bool) : List Char → Option (List Char)
  | [] => some []
  | c :: cs =>
    if isBlank c || isBreak c then some []
    else if inFlow && c == ':' && cs.head?.any (fun x => isFlowMark x || x == '?') then none
    else if c == ':' && cs.head?.all (fun x => isBlank x || isBreak x) then some []
    else if inFlow && isFlowMark c then some []
    else (plainRun inFlow cs).map (c :: ·)

/-- The rest of a plain scalar after a gap; also whether it ended after a line break. -/
def plainFrom (inFlow : Bool) (indent : Int) :
    (fuel : Nat) → Gap → Cursor → Option (List Char × Bool × Cursor)
  | 0, _, _ => none
  | fuel + 1, gap, c =>
    if c.startsDocument || c.endsDocument || c.has 0 '#' then some ([], gap.broken, c)
    else
      match plainRun inFlow c.rest with
      | none => none
      | some run =>
        let lead := if run.isEmpty then [] else gap.text
        let gap := if run.isEmpty then gap else {}
        let c := c.skip run.length
        if !(c.blankAt 0 || c.breakAt 0) then some (lead ++ run, gap.broken, c)
        else
          match readGap (fun c => (c.column : Int) < indent) (c.rest.length + 1) gap c with
          | none => none
          | some (gap, c) =>
            if !inFlow && (c.column : Int) < indent then some (lead ++ run, gap.broken, c)
            else
              (plainFrom inFlow indent fuel gap c).map fun (more, broken, c) =>
                (lead ++ run ++ more, broken, c)

/-- A plain scalar; `indent` is the least column of its further lines. -/
def readPlain (inFlow : Bool) (indent : Int) (c : Cursor) : Option (List Char × Bool × Cursor) :=
  plainFrom inFlow indent (c.rest.length + 1) {} c

/-! ## Quoted scalars -/

def hexValue? (c : Char) : Option Nat :=
  if c.isDigit then some (c.toNat - 48)
  else if 'a' ≤ c ∧ c ≤ 'f' then some (c.toNat - 87)
  else if 'A' ≤ c ∧ c ≤ 'F' then some (c.toNat - 55)
  else none

/-- The character that so many base-sixteen digits name. -/
def hexChar? (cs : List Char) (count : Nat) : Option Char :=
  if cs.length < count then none
  else
    match (cs.take count).mapM hexValue? with
    | none => none
    | some ds =>
      let n := ds.foldl (fun n d => n * 16 + d) 0
      if h : n.isValidChar then some (Char.ofNatAux n h) else none

/-- An escape after its backslash: the character, and how many characters it takes. -/
def escape? : List Char → Option (Char × Nat)
  | '0' :: _ => some ('\x00', 1)
  | 'a' :: _ => some ('\x07', 1)
  | 'b' :: _ => some ('\x08', 1)
  | 't' :: _ | '\t' :: _ => some ('\t', 1)
  | 'n' :: _ => some ('\n', 1)
  | 'v' :: _ => some ('\x0b', 1)
  | 'f' :: _ => some ('\x0c', 1)
  | 'r' :: _ => some ('\r', 1)
  | 'e' :: _ => some ('\x1b', 1)
  | ' ' :: _ => some (' ', 1)
  | '"' :: _ => some ('"', 1)
  | '/' :: _ => some ('/', 1)
  | '\\' :: _ => some ('\\', 1)
  | 'N' :: _ => some ('\x85', 1)
  | '_' :: _ => some ('\xa0', 1)
  | 'L' :: _ => some ('\u2028', 1)
  | 'P' :: _ => some ('\u2029', 1)
  | 'x' :: cs => (hexChar? cs 2).map (·, 3)
  | 'u' :: cs => (hexChar? cs 4).map (·, 5)
  | 'U' :: cs => (hexChar? cs 8).map (·, 9)
  | _ => none

/-- The rest of a quoted scalar up to and with its closing quote. -/
def quotedFrom (single : Bool) : (fuel : Nat) → Cursor → Option (List Char × Cursor)
  | 0, _ => none
  | fuel + 1, c =>
    let quote := if single then '\'' else '"'
    if c.startsDocument || c.endsDocument then none
    else
      match c.rest with
      | [] => none
      | x :: rest =>
        let go (cs : List Char) (c : Cursor) : Option (List Char × Cursor) :=
          (quotedFrom single fuel c).map fun (more, c) => (cs ++ more, c)
        if single && x == '\'' && rest.head? == some '\'' then go ['\''] (c.skip 2)
        else if x == quote then some ([], c.skip 1)
        else if !single && x == '\\' && c.breakAt 1 then
          let (next, _) := (c.skip 1).skipBreak
          match readGap (fun _ => false) (next.rest.length + 1) { broken := true } next with
          | none => none
          | some (gap, next) => go gap.text next
        else if !single && x == '\\' then
          match escape? rest with
          | none => none
          | some (y, n) => go [y] (c.skip (n + 1))
        else if isBlank x || isBreak x then
          match readGap (fun _ => false) (c.rest.length + 1) {} c with
          | none => none
          | some (gap, next) => go gap.text next
        else go [x] (c.skip 1)

/-- A quoted scalar, its opening quote being next. -/
def readQuoted (single : Bool) (c : Cursor) : Option (List Char × Cursor) :=
  quotedFrom single (c.rest.length + 1) (c.skip 1)

/-! ## Block scalars -/

/-- What becomes of the line breaks at the end. -/
inductive Chomp where
  | strip
  | clip
  | keep
  deriving DecidableEq

/-- The marks after the indicator of a block scalar: chomping, and a written indentation. -/
def blockHeader (c : Cursor) : Option (Chomp × Option Nat × Cursor) :=
  let chomp? (c : Cursor) : Option Chomp :=
    if c.has 0 '+' then some .keep else if c.has 0 '-' then some .strip else none
  let digit? (c : Cursor) : Option Nat :=
    (c.char? 0).bind fun x => if x.isDigit then some (x.toNat - 48) else none
  match chomp? c, digit? c with
  | some k, _ =>
    let c := c.skip 1
    match digit? c with
    | some 0 => none
    | some n => some (k, some n, c.skip 1)
    | none => some (k, none, c)
  | none, some 0 => none
  | none, some n =>
    let c := c.skip 1
    match chomp? c with
    | some k => some (k, some n, c.skip 1)
    | none => some (.clip, some n, c)
  | none, none => some (.clip, none, c)

/-- Skips indentation and empty lines.  Without an indentation so far it is that of the line
with the most, or `least`.  Gives the indentation and the breaks. -/
def blockBreaks (least : Nat) :
    (fuel : Nat) → (indent : Option Nat) → (most : Nat) → Cursor →
      Option (Nat × List Char × Cursor)
  | 0, _, _, _ => none
  | fuel + 1, indent, most, c =>
    let room := match indent with
      | some n => n - c.column
      | none => c.rest.length
    let spaces := ((c.rest.take room).takeWhile (· == ' ')).length
    let c := c.skip spaces
    let most := max most c.column
    if indent.all (c.column < ·) && c.has 0 '\t' then none
    else if c.breakAt 0 then
      let (next, b) := c.skipBreak
      (blockBreaks least fuel indent most next).map fun (n, bs, c) => (n, b ++ bs, c)
    else some (indent.getD (max most least), [], c)

/-- The lines of a block scalar; `lead` is the break before the next line, `blankLead` says
that the line before it started with a blank. -/
def blockLines (literal : Bool) (chomp : Chomp) (indent : Nat) :
    (fuel : Nat) → (lead breaks : List Char) → (blankLead : Bool) → Cursor →
      Option (List Char × Cursor)
  | 0, _, _, _, _ => none
  | fuel + 1, lead, breaks, blankLead, c =>
    if c.column == indent && !c.atEnd then
      let blank := c.blankAt 0
      let join :=
        if !literal && lead == ['\n'] && !blankLead && !blank then
          (if breaks.isEmpty then [' '] else [])
        else lead
      let (c, line) := c.skipWhile (!isBreak ·)
      let (c, lead) := c.skipBreak
      match blockBreaks 0 (c.rest.length + 1) (some indent) 0 c with
      | none => none
      | some (_, more, c) =>
        (blockLines literal chomp indent fuel lead more blank c).map fun (rest, c) =>
          (join ++ breaks ++ line ++ rest, c)
    else
      let tail := match chomp with
        | .strip => []
        | .clip => lead
        | .keep => lead ++ breaks
      some (tail, c)

/-- A block scalar, its indicator being next, in a collection at column `parent`. -/
def readBlock (literal : Bool) (parent : Int) (c : Cursor) : Option (List Char × Cursor) :=
  match blockHeader (c.skip 1) with
  | none => none
  | some (chomp, increment, c) =>
    let (c, _) := c.skipWhile isBlank
    let c := if c.has 0 '#' then c.skipLine else c
    if !c.endAt 0 then none
    else
      let (c, _) := if c.breakAt 0 then c.skipBreak else (c, [])
      let indent := increment.map fun n => (max parent 0).toNat + n
      let least := (max (parent + 1) 1).toNat
      match blockBreaks least (c.rest.length + 1) indent 0 c with
      | none => none
      | some (indent, breaks, c) =>
        blockLines literal chomp indent (c.rest.length + 1) [] breaks false c

end Quarantine.Yaml
