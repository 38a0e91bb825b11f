/-!
# A place in a YAML text

The characters still to read, with the line and the column of the first.  A line ends with a
line feed, a carriage return, the two together, or one of three other separators; of these the
first four are read as a line feed.
-/

namespace Quarantine.Yaml

/-! ## Characters -/

def isBlank (c : Char) : Bool := c == ' ' || c == '\t'

def isBreak (c : Char) : Bool :=
  c == '\n' || c == '\r' || c == '\x85' || c == '\u2028' || c == '\u2029'

/-- Whether a character may stand in a text. -/
def isAllowed (c : Char) : Bool :=
  let n := c.toNat
  n == 0x09 || n == 0x0A || n == 0x0D || (0x20 ≤ n && n ≤ 0x7E) || n == 0x85 ||
    (0xA0 ≤ n && n ≤ 0xFFFD) || 0x10000 ≤ n

/-- A letter, digit, hyphen or underscore, all ASCII. -/
def isNameChar (c : Char) : Bool := c.isAlphanum || c == '-' || c == '_'

/-! ## The cursor -/

structure Cursor where
  rest : List Char
  index : Nat := 0
  line : Nat := 0
  column : Nat := 0

namespace Cursor

/-- The start of a text.  A mark of the byte order may stand there, and takes up a column. -/
def start : List Char → Cursor
  | '\ufeff' :: rest => { rest, index := 1, column := 1 }
  | rest => { rest }

def char? (c : Cursor) (n : Nat) : Option Char := c.rest[n]?

def atEnd (c : Cursor) : Bool := c.rest.isEmpty

/-- Whether character `n` from here is the given one. -/
def has (c : Cursor) (n : Nat) (x : Char) : Bool := c.char? n == some x

/-- Whether character `n` from here is a blank. -/
def blankAt (c : Cursor) (n : Nat) : Bool := (c.char? n).any isBlank

/-- Whether a line ends at character `n` from here. -/
def breakAt (c : Cursor) (n : Nat) : Bool := (c.char? n).any isBreak

/-- Whether a line or the text ends at character `n` from here. -/
def endAt (c : Cursor) (n : Nat) : Bool := (c.char? n).all isBreak

/-- Whether a blank stands at character `n` from here, or a line or the text ends. -/
def gapAt (c : Cursor) (n : Nat) : Bool := (c.char? n).all fun x => isBlank x || isBreak x

/-- Past one character within a line. -/
def skip (c : Cursor) (n : Nat) : Cursor :=
  { c with rest := c.rest.drop n, index := c.index + n, column := c.column + n }

/-- Past the end of a line, and what it is read as. -/
def skipBreak (c : Cursor) : Cursor × List Char :=
  let past (n : Nat) (rest : List Char) : Cursor := ⟨rest, c.index + n, c.line + 1, 0⟩
  match c.rest with
  | '\r' :: '\n' :: rest => (past 2 rest, ['\n'])
  | '\u2028' :: rest => (past 1 rest, ['\u2028'])
  | '\u2029' :: rest => (past 1 rest, ['\u2029'])
  | _ :: rest => (past 1 rest, ['\n'])
  | [] => (c, [])

/-- Past the characters of a line that satisfy a condition, and these. -/
def skipWhile (c : Cursor) (p : Char → Bool) : Cursor × List Char :=
  let taken := c.rest.takeWhile p
  (c.skip taken.length, taken)

/-- Past the rest of the line. -/
def skipLine (c : Cursor) : Cursor := (c.skipWhile (!isBreak ·)).1

/-- Whether a document indicator stands here: three times `x` at the start of a line. -/
def indicates (c : Cursor) (x : Char) : Bool :=
  c.column == 0 && c.has 0 x && c.has 1 x && c.has 2 x && c.gapAt 3

def startsDocument (c : Cursor) : Bool := c.indicates '-'

def endsDocument (c : Cursor) : Bool := c.indicates '.'

end Cursor
end Quarantine.Yaml
