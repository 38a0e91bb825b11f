import Quarantine.Storage.Rows
import Quarantine.Text.Alphabet
import Quarantine.Text.Blank

/-!
# Variables

Variables with values, those of the environment and those of a file that adds to them.  The file
has a name, an equals sign and a value in a line; the word `export` may stand before the name,
and a number sign begins a comment.  A value may be quoted, and holds the values of other
variables after a dollar sign.  A variable that is set already is left as it is, and the first
line that cannot be read ends the file.

    (add vs n v).get? m = if vs.get? n = none ∧ m = n then some v else vs.get? m
-/

namespace Quarantine.CommandLine

open Quarantine.Text

structure Variables where
  items : List (String × String)

namespace Variables

def get? (vs : Variables) (name : String) : Option String := vs.items.lookup name

/-- Sets a variable that is not set yet. -/
def add (vs : Variables) (name value : String) : Variables :=
  if (vs.get? name).isSome then vs else ⟨(name, value) :: vs.items⟩

theorem get?_add (vs : Variables) (name value other : String) :
    (vs.add name value).get? other =
      if vs.get? name = none ∧ other = name then some value else vs.get? other := by
  unfold add
  cases h : vs.get? name with
  | some v => simp
  | none =>
    by_cases ho : other = name
    · simp [get?, ho]
    · simp [get?, List.lookup_cons, beq_eq_false_iff_ne.2 ho, ho]

/-! ## Lines

A quoted value may go on over the end of a line. -/

/-- What a character of a line stands in. -/
inductive Quoting where
  | outside
  | blank
  | escape
  | single
  | singleEscape
  | double
  | doubleEscape
  deriving DecidableEq

namespace Quoting

/-- What a character outside quotes leads to. -/
def begin (c : Char) : Quoting :=
  match c with
  | '\\' => escape
  | '"' => double
  | '\'' => single
  | _ => outside

def step (q : Quoting) (c : Char) : Quoting :=
  match q with
  | outside => if isBlank c && c != '\n' && c != '\r' then blank else begin c
  | blank => begin c
  | escape => outside
  | single => match c with
    | '\\' => singleEscape
    | '\'' => outside
    | _ => single
  | singleEscape => single
  | double => match c with
    | '\\' => doubleEscape
    | '"' => outside
    | _ => double
  | doubleEscape => double

/-- Whether a line can end here. -/
def isEnd (q : Quoting) : Bool := q == outside || q == blank

/-- The characters before a comment, what the last of them leads to, and whether there is a
comment: a number sign after a blank. -/
def scan (q : Quoting) : List Char → List Char × Quoting × Bool
  | [] => ([], q, false)
  | c :: rest =>
    if q = blank ∧ c = '#' then ([], q, true)
    else
      let (taken, last, comment) := scan (q.step c) rest
      (c :: taken, last, comment)

end Quoting

/-- Whether the first character that is no blank is a number sign. -/
def startsComment (cs : List Char) : Bool := (cs.dropWhile isBlank).head? == some '#'

/-- The entries that lines hold, an entry being what goes on until no quote is open; `none` for
one that never ends.  A line keeps its line feed. -/
def entries (before : List Char) (q : Quoting) : List (List Char) → List (Option (List Char))
  | [] => if q == .outside then [] else [none]
  | line :: rest =>
    if startsComment (before ++ line) then entries [] .outside rest
    else
      let (taken, last, comment) := q.scan line
      if comment || last.isEnd then some (before ++ taken) :: entries [] .outside rest
      else entries (before ++ line) last rest

/-! ## Values -/

/-- What a character of a value stands in. -/
inductive Mode where
  | text
  | single
  | escape
  /-- Behind the value: blanks, and perhaps a comment. -/
  | behind
  /-- In the name after a dollar sign. -/
  | name (chars : List Char)
  /-- In a name between braces. -/
  | braced (chars : List Char)

/-- The character that an escaped one stands for. -/
def escaped? : Char → Option Char
  | 'n' => some '\n'
  | c => if ['\\', '\'', '"', '$', ' '].contains c then some c else none

/-- The value that characters write, in double quotes or not. -/
def value? (lookup : String → String) (double : Bool) : Mode → List Char → Option (List Char)
  | .single, [] | .braced _, [] => none
  | .text, [] | .escape, [] | .behind, [] => if double then none else some []
  | .name n, [] => if double then none else some (lookup (String.ofList n)).toList
  | .behind, c :: rest =>
    if c = ' ' ∨ c = '\t' then value? lookup double .behind rest
    else if c = '#' then (if double then none else some [])
    else none
  | .escape, c :: rest => do
    let c ← escaped? c
    return c :: (← value? lookup double .text rest)
  | .single, c :: rest =>
    if c = '\'' then value? lookup double .text rest
    else (value? lookup double .single rest).map (c :: ·)
  | .name n, c :: rest =>
    if isAlphanumeric c then value? lookup double (.name (n ++ [c])) rest
    else if c = '\x7b' ∧ n = [] then value? lookup double (.braced []) rest
    else
      let put := (lookup (String.ofList n)).toList
      if c = '$' then (value? lookup double (.name []) rest).map (put ++ ·)
      else (value? lookup double .text rest).map fun cs => put ++ c :: cs
  | .braced n, c :: rest =>
    if c = '\x7d' then
      (value? lookup double .text rest).map ((lookup (String.ofList n)).toList ++ ·)
    else value? lookup double (.braced (n ++ [c])) rest
  | .text, c :: rest =>
    if c = '$' then value? lookup double (.name []) rest
    else if c = '\\' then value? lookup double .escape rest
    else if c = '"' then value? lookup (!double) .text rest
    else if double then (value? lookup double .text rest).map (c :: ·)
    else if c = '\'' then value? lookup double .single rest
    else if c = ' ' ∨ c = '\t' then value? lookup double .behind rest
    else (value? lookup double .text rest).map (c :: ·)

/-! ## Entries -/

def isNameStart (c : Char) : Bool := c.isAlpha || c == '_'

def isNamePart (c : Char) : Bool := c.isAlphanum || c == '_' || c == '.'

/-- A name, and what follows it and the blanks behind it. -/
def name? (cs : List Char) : Option (List Char × List Char) :=
  match cs with
  | c :: _ =>
    if isNameStart c then some (cs.takeWhile isNamePart, (cs.dropWhile isNamePart).dropWhile isBlank)
    else none
  | [] => none

/-- A name and what follows its equals sign. -/
def assignment? (cs : List Char) : Option (String × List Char) := do
  let (name, rest) ← name? cs
  match rest with
  | '=' :: value => return (String.ofList name, value.dropWhile isBlank)
  | _ =>
    if String.ofList name = "export" then
      let (name, rest) ← name? rest
      match rest with
      | '=' :: value => return (String.ofList name, value.dropWhile isBlank)
      | _ => none
    else none

/-- Takes an entry, which may be blank or a comment. -/
def addEntry? (vs : Variables) (entry : List Char) : Option Variables :=
  match trimChars entry with
  | [] => some vs
  | '#' :: _ => some vs
  | cs => do
    let (name, text) ← assignment? cs
    match text with
    | [] => return vs.add name ""
    | '#' :: _ => return vs.add name ""
    | _ =>
      let value ← value? (fun n => (vs.get? n).getD "") false .text text
      return vs.add name (String.ofList value)

/-- Takes entries up to the first that cannot be read. -/
def addEntries (vs : Variables) : List (Option (List Char)) → Variables
  | [] => vs
  | entry :: rest =>
    match entry.bind vs.addEntry? with
    | some vs => addEntries vs rest
    | none => vs

/-! ## Files -/

/-- Lines with the line feeds that ended them; nothing after the last one is no line. -/
def withLineFeeds : List (List UInt8) → List (List UInt8)
  | [] => []
  | [part] => if part.isEmpty then [] else [part]
  | part :: rest => (part ++ [Rows.lineFeed]) :: withLineFeeds rest

/-- The lines of a file before the first that is no text. -/
def linesOf (content : ByteArray) : List (List Char) :=
  (((withLineFeeds (split Rows.lineFeed content.toList)).map fun line =>
    (String.fromUTF8? ⟨line.toArray⟩).map String.toList).takeWhile Option.isSome).filterMap id

/-- The mark of the byte order, which may stand first. -/
def byteOrderMark : ByteArray := ⟨#[0xEF, 0xBB, 0xBF]⟩

def addFile (vs : Variables) (content : ByteArray) : Variables :=
  let content := if content.extract 0 3 == byteOrderMark then content.extract 3 content.size
    else content
  vs.addEntries (entries [] .outside (linesOf content))

/-- The name of the file. -/
def fileName : String := ".env"

/-- The file in the first directory that has one; an error on the way ends the search. -/
def findFile : List Path → Action (Option Path)
  | [] => return none
  | directory :: rest => do
    let path := directory.join fileName
    match ← Action.ask (.inspect path) with
    | .ok .file => return some path
    | .ok .directory | .error .notFound => findFile rest
    | .error _ => return none

/-- Adds the variables of the file in the first directory that has one. -/
def complete (vs : Variables) (directories : List Path) : Action Variables := do
  match ← findFile directories with
  | none => return vs
  | some path =>
    match ← Action.ask (.read path) with
    | .ok content => return vs.addFile content
    | .error _ => return vs

end Variables
end Quarantine.CommandLine
