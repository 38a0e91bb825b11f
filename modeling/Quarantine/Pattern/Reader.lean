import Quarantine.Pattern.Node
import Quarantine.Text.Blank
import Quarantine.Text.Folding
import Quarantine.Text.Property

/-!
# Reading position and flags

What the readers of a written pattern share: the rest of the text, the flags in force, the
groups met so far; skipping of space and comments where the `x` flag allows them; and the sets
that single characters and named classes denote under the flags.
-/

namespace Quarantine.Pattern

open Quarantine.Text

/-! ## Flags -/

structure Flags where
  ignoreCase : Bool := false
  multiLine : Bool := false
  dotAll : Bool := false
  swapGreed : Bool := false
  unicode : Bool := true
  crlf : Bool := false
  spaced : Bool := false
  deriving DecidableEq, Inhabited

/-- The flags with one of them set; `none` for an unknown letter. -/
def Flags.put? (f : Flags) (letter : Char) (on : Bool) : Option Flags :=
  match letter with
  | 'i' => some { f with ignoreCase := on }
  | 'm' => some { f with multiLine := on }
  | 's' => some { f with dotAll := on }
  | 'U' => some { f with swapGreed := on }
  | 'u' => some { f with unicode := on }
  | 'R' => some { f with crlf := on }
  | 'x' => some { f with spaced := on }
  | _ => none

/-- A list of flags up to `:` or `)`.  No letter and no `-` comes twice, and `-` is not last.
Gives the flags, whether the list was empty, the character that ended it, and the rest. -/
def readFlags (f : Flags) (on : Bool) (seen : List Char) :
    List Char → Option (Flags × Bool × Char × List Char)
  | [] => none
  | c :: cs =>
    if c == ':' || c == ')' then
      if seen.head? == some '-' then none else some (f, seen.isEmpty, c, cs)
    else if seen.contains c then none
    else if c == '-' then readFlags f false (c :: seen) cs
    else
      match f.put? c on with
      | some f => readFlags f on (c :: seen) cs
      | none => none

/-! ## The reader -/

structure Source where
  rest : List Char
  flags : Flags := {}
  groups : Nat := 0
  names : List (String × Nat) := []
  deriving Inhabited

/-- A step of reading, which may refuse. -/
abbrev Reader := StateT Source Option

namespace Reader

def refuse {α : Type} : Reader α := fun _ => none

def ofOption {α : Type} (o : Option α) : Reader α := fun s => o.map (·, s)

def rest : Reader (List Char) := fun s => some (s.rest, s)

def flags : Reader Flags := fun s => some (s.flags, s)

def goTo (cs : List Char) : Reader Unit := fun s => some ((), { s with rest := cs })

def setFlags (f : Flags) : Reader Unit := fun s => some ((), { s with flags := f })

def skip (n : Nat) : Reader Unit := fun s => some ((), { s with rest := s.rest.drop n })

/-- The next character, read. -/
def take : Reader Char := fun s =>
  match s.rest with
  | [] => none
  | c :: cs => some (c, { s with rest := cs })

/-- The next character, not read; refuses at the end. -/
def peek : Reader Char := fun s => s.rest.head?.map (·, s)

/-- Drops blanks and comments; a comment runs from `#` to the end of the line. -/
def dropSpace (inComment : Bool) : List Char → List Char
  | [] => []
  | c :: cs =>
    if inComment then dropSpace (c != '\n') cs
    else if isBlank c then dropSpace false cs
    else if c == '#' then dropSpace true cs
    else c :: cs

/-- Skips space where the flags allow it. -/
def skipSpace : Reader Unit := fun s =>
  some ((), if s.flags.spaced then { s with rest := dropSpace false s.rest } else s)

/-- Reads a character and the space after it. -/
def takeSpaced : Reader Char := do
  let c ← take
  skipSpace
  return c

def expect (c : Char) : Reader Unit := do
  if (← take) == c then return () else refuse

/-- Opens a new group. -/
def nextGroup : Reader Nat := fun s => some (s.groups + 1, { s with groups := s.groups + 1 })

/-- Gives a group its name; no two groups share one. -/
def nameGroup (name : String) (index : Nat) : Reader Unit := fun s =>
  if s.names.any (·.1 == name) then none
  else some ((), { s with names := s.names ++ [(name, index)] })

end Reader

/-! ## Sets under the flags -/

/-- Closes a set under case where the flags ask for it. -/
def Flags.fold (f : Flags) (s : CharSet) : CharSet :=
  if f.ignoreCase then (if f.unicode then foldSet s else foldAsciiSet s) else s

/-- A class after folding and negation.  Without the `u` flag a class holds bytes, and one that
reaches beyond ASCII is refused, as every negated one does. -/
def Flags.close? (f : Flags) (negated : Bool) (s : CharSet) : Option CharSet :=
  let s := f.fold s
  if f.unicode then some (if negated then s.complement else s)
  else if negated || !s.isAscii then none
  else some s

/-- The classes `\d`, `\s` and `\w`, in upper case negated. -/
def Flags.perl? (f : Flags) (letter : Char) : Option CharSet :=
  let positive :=
    if f.unicode then
      match letter.toLower with
      | 'd' => digit
      | 's' => blank
      | _ => word
    else
      match letter.toLower with
      | 'd' => ⟨[(0x30, 0x39)]⟩
      | 's' => ⟨[(0x09, 0x0D), (0x20, 0x20)]⟩
      | _ => ⟨[(0x30, 0x39), (0x41, 0x5A), (0x5F, 0x5F), (0x61, 0x7A)]⟩
  if letter.isLower then some positive
  else if f.unicode then some positive.complement
  else none

/-- The set that `.` denotes.  Without the `u` flag it would match parts of characters. -/
def Flags.dot? (f : Flags) : Option CharSet :=
  if !f.unicode then none
  else if f.dotAll then some .all
  else if f.crlf then some ⟨[(0, 0x09), (0x0B, 0x0C), (0x0E, CharSet.maxCode)]⟩
  else some ⟨[(0, 0x09), (0x0B, CharSet.maxCode)]⟩

/-- A named set of characters, as in `\p{…}`. -/
def Flags.property? (f : Flags) (negated : Bool) (name : List Char) : Option CharSet :=
  if !f.unicode then none
  else
    let (set?, negated) :=
      match splitName name with
      | some (property, true, value) => (valueSet? property value, !negated)
      | some (property, false, value) => (valueSet? property value, negated)
      | none => (namedSet? (String.ofList name), negated)
    set?.bind (f.close? negated)
where
  /-- Splits at the first `!=`, else at the first `:`, else at the first `=`. -/
  splitName (name : List Char) : Option (String × Bool × String) :=
    match splitNot [] name with
    | some (p, v) => some (p, true, v)
    | none =>
      let splitAt (c : Char) := (String.ofList (name.takeWhile (· != c)), false,
        String.ofList ((name.dropWhile (· != c)).drop 1))
      if name.contains ':' then some (splitAt ':')
      else if name.contains '=' then some (splitAt '=')
      else none
  splitNot (before : List Char) : List Char → Option (String × String)
    | '!' :: '=' :: value => some (String.ofList before.reverse, String.ofList value)
    | c :: cs => splitNot (c :: before) cs
    | [] => none

end Quarantine.Pattern
