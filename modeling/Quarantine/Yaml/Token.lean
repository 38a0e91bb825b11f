import Quarantine.Yaml.Scalar

/-!
# Tokens of a YAML text

Besides the marks that stand in the text there are tokens for the start and the end of a block
collection, which follow from the columns, and one before each key.  That something was a key
is known only when the colon behind it is met, on the same line and within 1024 characters;
its token is then put in front of it.

    tokens? text = the tokens of a text
-/

namespace Quarantine.Yaml

inductive Token where
  | version (major minor : Nat)
  | tagPrefix (handle : List Char)
  | documentStart
  | documentEnd
  | blockSequence
  | blockMapping
  | blockEnd
  | openBracket
  | closeBracket
  | openBrace
  | closeBrace
  | entry
  | comma
  | key
  | value
  | alias (name : List Char)
  | anchor (name : List Char)
  | tag (handle : List Char)
  | scalar (text : List Char) (plain : Bool)
  deriving DecidableEq

/-- The largest distance of a colon from the start of its key. -/
def maxKeyLength : Nat := 1024

/-- Where a key may have started: the number of its first token, and its place. -/
structure KeyStart where
  token : Nat
  index : Nat
  line : Nat
  column : Nat
  /-- Nothing but a key can stand here. -/
  required : Bool

structure Scanner where
  cursor : Cursor
  tokens : Array Token := #[]
  indent : Int := -1
  outer : List Int := []
  /-- Possible keys, one for each level of brackets and braces, the innermost first. -/
  keys : List (Option KeyStart) := [none]
  keyAllowed : Bool := true

abbrev Scan := StateT Scanner Option

namespace Scan

def refuse {α : Type} : Scan α := fun _ => none

def ofOption {α : Type} (o : Option α) : Scan α := fun s => o.map (·, s)

def emit (t : Token) : Scan Unit := modify fun s => { s with tokens := s.tokens.push t }

def moveTo (c : Cursor) : Scan Unit := modify fun s => { s with cursor := c }

def allowKey (b : Bool) : Scan Unit := modify fun s => { s with keyAllowed := b }

def inFlow : Scan Bool := do return (← get).keys.length > 1

/-- Skips blanks, comments and line ends up to the next token. -/
def toNextToken : (fuel : Nat) → Scan Unit
  | 0 => refuse
  | fuel + 1 => do
    let s ← get
    let flow := s.keys.length > 1
    let (c, _) := s.cursor.skipWhile fun x => x == ' ' || ((flow || !s.keyAllowed) && x == '\t')
    let c := if c.has 0 '#' then c.skipLine else c
    if c.breakAt 0 then
      moveTo c.skipBreak.1
      if !flow then allowKey true
      toNextToken fuel
    else moveTo c

/-! ## Columns -/

/-- Starts a block collection at a column beyond the present one, in front of a token. -/
def enterBlock (column : Nat) (before : Nat) (t : Token) : Scan Unit := do
  let s ← get
  if s.keys.length == 1 && s.indent < column then
    set { s with
      indent := column
      outer := s.indent :: s.outer
      tokens := s.tokens.insertIdxIfInBounds before t }

/-- Ends the block collections beyond a column. -/
def leaveBlocks (column : Int) : (fuel : Nat) → Scan Unit
  | 0 => return ()
  | fuel + 1 => do
    let s ← get
    if s.keys.length == 1 && s.indent > column then
      set { s with
        indent := s.outer.headD (-1)
        outer := s.outer.drop 1
        tokens := s.tokens.push .blockEnd }
      leaveBlocks column fuel

/-- Ends the block collections beyond a column. -/
def leaveTo (column : Int) : Scan Unit := do leaveBlocks column ((← get).outer.length + 1)

/-! ## Keys -/

/-- Gives up the possible key of the innermost level. -/
def dropKey : Scan Unit := do
  let s ← get
  match s.keys with
  | some k :: rest => if k.required then refuse else set { s with keys := none :: rest }
  | _ => return ()

/-- Notes that a key may start with the next token. -/
def noteKey : Scan Unit := do
  let s ← get
  if s.keyAllowed then
    dropKey
    let k : KeyStart := {
      token := s.tokens.size
      index := s.cursor.index
      line := s.cursor.line
      column := s.cursor.column
      required := s.keys.length == 1 && s.indent == s.cursor.column }
    modify fun s => { s with keys := some k :: s.keys.drop 1 }

/-- Gives up the possible keys that lie too far back; one that is required must not. -/
def dropStaleKeys : Scan Unit := do
  let s ← get
  let stale (k : KeyStart) : Bool :=
    k.line < s.cursor.line || k.index + maxKeyLength < s.cursor.index
  if s.keys.any (Option.any fun k => k.required && stale k) then refuse
  else set { s with keys := s.keys.map (Option.filter fun k => !stale k) }

/-! ## Single tokens -/

def single (t : Token) (width : Nat) : Scan Unit := do
  emit t
  moveTo ((← get).cursor.skip width)

/-- A document indicator. -/
def documentMark (t : Token) : Scan Unit := do
  leaveTo (-1)
  dropKey
  allowKey false
  single t 3

/-- The start of a collection in brackets or braces. -/
def openFlow (t : Token) : Scan Unit := do
  noteKey
  modify fun s => { s with keys := none :: s.keys }
  allowKey true
  single t 1

/-- The end of a collection in brackets or braces. -/
def closeFlow (t : Token) : Scan Unit := do
  dropKey
  modify fun s => { s with keys := if s.keys.length > 1 then s.keys.drop 1 else s.keys }
  allowKey false
  single t 1

def flowEntry : Scan Unit := do
  dropKey
  allowKey true
  single .comma 1

def blockEntry : Scan Unit := do
  let s ← get
  if !(← inFlow) then
    if !s.keyAllowed then refuse
    enterBlock s.cursor.column s.tokens.size .blockSequence
  dropKey
  allowKey true
  single .entry 1

def explicitKey : Scan Unit := do
  let s ← get
  let flow ← inFlow
  if !flow then
    if !s.keyAllowed then refuse
    enterBlock s.cursor.column s.tokens.size .blockMapping
  dropKey
  allowKey (!flow)
  single .key 1

def valueMark : Scan Unit := do
  let s ← get
  let flow ← inFlow
  match s.keys with
  | some k :: rest =>
    set { s with tokens := s.tokens.insertIdxIfInBounds k.token .key, keys := none :: rest }
    enterBlock k.column k.token .blockMapping
    allowKey false
  | _ =>
    if !flow then
      if !s.keyAllowed then refuse
      enterBlock s.cursor.column s.tokens.size .blockMapping
    allowKey (!flow)
  single .value 1

/-- The name of an anchor or an alias, after its mark. -/
def nameToken (make : List Char → Token) : Scan Unit := do
  noteKey
  allowKey false
  let (c, name) := ((← get).cursor.skip 1).skipWhile isNameChar
  let ends := c.gapAt 0 || (c.char? 0).any fun x => "?:,]\x7d%@".toList.contains x || x.toNat == 0x60
  if name.isEmpty || !ends then refuse
  emit (make name)
  moveTo c

/-- Whether a character may stand in a tag; some may only where it is written out in full. -/
def isTagChar (verbatim : Bool) (c : Char) : Bool :=
  isNameChar c || ";/?:@&=+$.!~*'()%".toList.contains c ||
    (verbatim && (c == ',' || c == '[' || c == ']'))

/-- Whether each percent sign is followed by two base-sixteen digits. -/
def percentsHold : List Char → Bool
  | '%' :: a :: b :: rest => (hexValue? a).isSome && (hexValue? b).isSome && percentsHold rest
  | '%' :: _ => false
  | _ :: rest => percentsHold rest
  | [] => true

/-- A tag: its handle is empty where the tag is written out in full. -/
def tagToken : Scan Unit := do
  noteKey
  allowKey false
  let flow ← inFlow
  let c := (← get).cursor
  let (handle, c) ←
    if c.has 1 '<' then do
      let (c, uri) := (c.skip 2).skipWhile (isTagChar true)
      if uri.isEmpty || !percentsHold uri || !c.has 0 '>' then refuse
      pure ([], c.skip 1)
    else do
      let (c, name) := (c.skip 1).skipWhile isNameChar
      if c.has 0 '!' then
        let (c, suffix) := (c.skip 1).skipWhile (isTagChar false)
        if suffix.isEmpty || !percentsHold suffix then refuse
        pure ('!' :: name ++ ['!'], c)
      else
        let (c, suffix) := c.skipWhile (isTagChar false)
        if !percentsHold (name ++ suffix) then refuse
        pure (['!'], c)
  if !(c.gapAt 0 || (flow && c.has 0 ',')) then refuse
  emit (.tag handle)
  moveTo c

/-- A directive: a version, or a handle for tags. -/
def directive : Scan Unit := do
  leaveTo (-1)
  dropKey
  allowKey false
  let (c, name) := ((← get).cursor.skip 1).skipWhile isNameChar
  if !c.gapAt 0 then refuse
  let (c, _) := c.skipWhile isBlank
  let number (cs : List Char) : Nat := cs.foldl (fun n d => n * 10 + (d.toNat - 48)) 0
  let (t, c) ←
    if name == "YAML".toList then do
      let (c, major) := c.skipWhile Char.isDigit
      if major.isEmpty || !c.has 0 '.' then refuse
      let (c, minor) := (c.skip 1).skipWhile Char.isDigit
      if minor.isEmpty then refuse
      pure (Token.version (number major) (number minor), c)
    else if name == "TAG".toList then do
      if !c.has 0 '!' then refuse
      let (c, inner) := (c.skip 1).skipWhile isNameChar
      let handle := if c.has 0 '!' then '!' :: inner ++ ['!'] else '!' :: inner
      if !c.has 0 '!' && !inner.isEmpty then refuse
      let c := if c.has 0 '!' then c.skip 1 else c
      if !c.blankAt 0 then refuse
      let (c, _) := c.skipWhile isBlank
      let (c, uri) := c.skipWhile (isTagChar true)
      if uri.isEmpty || !percentsHold uri || !c.gapAt 0 then refuse
      pure (Token.tagPrefix handle, c)
    else refuse
  let (c, _) := c.skipWhile isBlank
  let c := if c.has 0 '#' then c.skipLine else c
  if !c.endAt 0 then refuse
  emit t
  moveTo (if c.breakAt 0 then c.skipBreak.1 else c)

def quotedScalar (singleQuoted : Bool) : Scan Unit := do
  noteKey
  allowKey false
  let (text, c) ← ofOption (readQuoted singleQuoted (← get).cursor)
  emit (.scalar text false)
  moveTo c

def blockScalar (literal : Bool) : Scan Unit := do
  dropKey
  allowKey true
  let s ← get
  let (text, c) ← ofOption (readBlock literal s.indent s.cursor)
  emit (.scalar text false)
  moveTo c

def plainScalar : Scan Unit := do
  noteKey
  allowKey false
  let s ← get
  let (text, broken, c) ← ofOption (readPlain (← inFlow) (s.indent + 1) s.cursor)
  emit (.scalar text true)
  moveTo c
  if broken then allowKey true

/-- Whether a plain scalar can start here. -/
def startsPlain (flow : Bool) (c : Cursor) : Bool :=
  match c.char? 0 with
  | none => false
  | some x =>
    let marks := "-?:,[]\x7b\x7d#&*!|>'\"%@".toList
    !(isBlank x || isBreak x || marks.contains x || x.toNat == 0x60) ||
      (x == '-' && !c.blankAt 1) || (!flow && (x == '?' || x == ':') && !c.gapAt 1)

/-! ## All tokens -/

/-- The next token and all after it. -/
def all : (fuel : Nat) → Scan Unit
  | 0 => refuse
  | fuel + 1 => do
    toNextToken ((← get).cursor.rest.length + 1)
    dropStaleKeys
    let c := (← get).cursor
    leaveTo c.column
    let flow ← inFlow
    match c.char? 0 with
    | none =>
      leaveTo (-1)
      dropKey
    | some x =>
      if c.column == 0 && x == '%' then directive
      else if c.startsDocument then documentMark .documentStart
      else if c.endsDocument then documentMark .documentEnd
      else if x == '[' then openFlow .openBracket
      else if x == '\x7b' then openFlow .openBrace
      else if x == ']' then closeFlow .closeBracket
      else if x == '\x7d' then closeFlow .closeBrace
      else if x == ',' then flowEntry
      else if x == '-' && c.gapAt 1 then blockEntry
      else if x == '?' && (flow || c.gapAt 1) then explicitKey
      else if x == ':' && (flow || c.gapAt 1) then valueMark
      else if x == '*' then nameToken .alias
      else if x == '&' then nameToken .anchor
      else if x == '!' then tagToken
      else if x == '|' && !flow then blockScalar true
      else if x == '>' && !flow then blockScalar false
      else if x == '\'' then quotedScalar true
      else if x == '"' then quotedScalar false
      else if startsPlain flow c then plainScalar
      else refuse
      all fuel

end Scan

/-- The tokens of a text; `none` if it is not well formed. -/
def tokens? (text : String) : Option (List Token) :=
  let cs := text.toList
  if !cs.all isAllowed then none
  else ((Scan.all (cs.length + 2)).run { cursor := .start cs }).map (·.2.tokens.toList)

end Quarantine.Yaml
