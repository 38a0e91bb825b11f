import Quarantine.Yaml.Token

/-!
# YAML documents

    document   = ['---'] node ['...']
    node       = alias | properties? (scalar | block | flow | nothing after properties)
    block      = sequence of entries | mapping of key and value tokens
    flow       = '[' … ']' | '{' … '}'

A document is a tree.  An anchor numbers a node, and an alias stands for the node that had the
anchor last.

    document? text = the one document of a text, and its numbered nodes
-/

namespace Quarantine.Yaml

inductive Node where
  | scalar (text : String) (plain : Bool)
  | sequence (items : List Node)
  | mapping (entries : List (Node × Node))
  | alias (number : Nat)
  deriving Inhabited

/-- The scalar that stands where nothing is written. -/
def Node.nothing : Node := .scalar "" true

structure Document where
  root : Node
  numbered : List (Nat × Node)

/-- The node that an alias stands for. -/
def Document.resolve (d : Document) : Node → Node
  | .alias n => (d.numbered.lookup n).getD .nothing
  | n => n

/-! ## Reading -/

/-- What is left of the tokens, and the anchors met so far, the latest first. -/
structure Build where
  tokens : List Token
  anchors : List (List Char × Nat) := []
  numbered : List (Nat × Node) := []
  handles : List (List Char) := []

abbrev Builder := StateT Build Option

namespace Builder

def refuse {α : Type} : Builder α := fun _ => none

def peek : Builder (Option Token) := do return (← get).tokens.head?

def skip : Builder Unit := modify fun s => { s with tokens := s.tokens.drop 1 }

/-- Skips a token that is next. -/
def accept (t : Token) : Builder Bool := do
  if (← peek) == some t then
    skip
    return true
  else return false

def expect (t : Token) : Builder Unit := do
  if !(← accept t) then refuse

/-- Whether one of some tokens is next. -/
def isNext (ts : List Token) : Builder Bool := do return (← peek).any ts.contains

/-- Gives the next number to an anchor. -/
def enter (name : List Char) : Builder Nat := do
  let s ← get
  let n := s.anchors.length
  set { s with anchors := (name, n) :: s.anchors }
  return n

/-- The anchor of a node if one is next: its number. -/
def anchor? : Builder (Option Nat) := do
  match (← peek) with
  | some (.anchor name) =>
    skip
    return some (← enter name)
  | _ => return none

/-- Skips a tag if one is next; its handle has to be known. -/
def tag? : Builder Bool := do
  match (← peek) with
  | some (.tag handle) =>
    let known := [[], ['!'], ['!', '!']] ++ (← get).handles
    if !known.contains handle then refuse
    skip
    return true
  | _ => return false

/-- Anchor and tag of a node, in any order; gives the number of the anchor, and whether there
was either. -/
def properties : Builder (Option Nat × Bool) := do
  let early ← anchor?
  let tagged ← tag?
  let late ← if early.isNone && tagged then anchor? else pure none
  return (early.or late, early.isSome || tagged)

mutual

/-- A node; `block` allows block collections, `indentless` entries without one around them. -/
def node (fuel : Nat) (block indentless : Bool) : Builder Node :=
  match fuel with
  | 0 => refuse
  | fuel + 1 => do
    match (← peek) with
    | some (.alias name) =>
      skip
      match (← get).anchors.lookup name with
      | some n => return .alias n
      | none => refuse
    | _ =>
      let (number, hasProperties) ← properties
      let n ← do
        match (← peek) with
        | some .entry =>
          if indentless then pure (.sequence (← bareEntries fuel))
          else if hasProperties then pure .nothing else refuse
        | some (.scalar text plain) =>
          skip
          pure (Node.scalar (String.ofList text) plain)
        | some .openBracket =>
          skip
          pure (.sequence (← flowItems fuel true))
        | some .openBrace =>
          skip
          pure (.mapping (← flowEntries fuel true))
        | some .blockSequence =>
          if block then
            skip
            pure (.sequence (← blockEntries fuel))
          else if hasProperties then pure .nothing else refuse
        | some .blockMapping =>
          if block then
            skip
            pure (.mapping (← blockFields fuel))
          else if hasProperties then pure .nothing else refuse
        | _ => if hasProperties then pure .nothing else refuse
      match number with
      | some k => modify fun s => { s with numbered := (k, n) :: s.numbered }
      | none => pure ()
      return n

/-- A node unless one of some tokens is next. -/
def nodeUnless (fuel : Nat) (ts : List Token) (block indentless : Bool) : Builder Node :=
  match fuel with
  | 0 => refuse
  | fuel + 1 => do
    if (← isNext ts) then return .nothing else node fuel block indentless

/-- The entries of a block sequence up to its end. -/
def blockEntries (fuel : Nat) : Builder (List Node) :=
  match fuel with
  | 0 => refuse
  | fuel + 1 => do
    if (← accept .blockEnd) then return []
    else
      expect .entry
      let n ← nodeUnless fuel [.entry, .blockEnd] true false
      return n :: (← blockEntries fuel)

/-- Entries that stand at the column of the mapping around them. -/
def bareEntries (fuel : Nat) : Builder (List Node) :=
  match fuel with
  | 0 => refuse
  | fuel + 1 => do
    if (← accept .entry) then
      let n ← nodeUnless fuel [.entry, .key, .value, .blockEnd] true false
      return n :: (← bareEntries fuel)
    else return []

/-- The keys and values of a block mapping up to its end. -/
def blockFields (fuel : Nat) : Builder (List (Node × Node)) :=
  match fuel with
  | 0 => refuse
  | fuel + 1 => do
    if (← accept .blockEnd) then return []
    else
      let marks := [Token.key, .value, .blockEnd]
      expect .key
      let k ← nodeUnless fuel marks true true
      let v ← if (← accept .value) then nodeUnless fuel marks true true else pure .nothing
      return (k, v) :: (← blockFields fuel)

/-- The items in brackets up to the closing one; an item may be a single pair. -/
def flowItems (fuel : Nat) (first : Bool) : Builder (List Node) :=
  match fuel with
  | 0 => refuse
  | fuel + 1 => do
    if (← accept .closeBracket) then return []
    else
      if !first then expect .comma
      if (← accept .closeBracket) then return []
      else if (← accept .key) then
        let k ← nodeUnless fuel [.value, .comma, .closeBracket] false false
        let v ←
          if (← accept .value) then nodeUnless fuel [.comma, .closeBracket] false false
          else pure .nothing
        return .mapping [(k, v)] :: (← flowItems fuel false)
      else
        let n ← node fuel false false
        return n :: (← flowItems fuel false)

/-- The entries in braces up to the closing one. -/
def flowEntries (fuel : Nat) (first : Bool) : Builder (List (Node × Node)) :=
  match fuel with
  | 0 => refuse
  | fuel + 1 => do
    if (← accept .closeBrace) then return []
    else
      if !first then expect .comma
      if (← accept .closeBrace) then return []
      else if (← accept .key) then
        let k ← nodeUnless fuel [.value, .comma, .closeBrace] false false
        let v ←
          if (← accept .value) then nodeUnless fuel [.comma, .closeBrace] false false
          else pure .nothing
        return (k, v) :: (← flowEntries fuel false)
      else
        let k ← node fuel false false
        return (k, .nothing) :: (← flowEntries fuel false)

end

/-! ## Documents -/

/-- The directives in front of a document; gives whether there were any. -/
def directives : (fuel : Nat) → (seenVersion : Bool) → (handles : List (List Char)) → Builder Bool
  | 0, _, _ => refuse
  | fuel + 1, seenVersion, handles => do
    match (← peek) with
    | some (.version major minor) =>
      if seenVersion || major != 1 || !(minor == 1 || minor == 2) then refuse
      skip
      directives fuel true handles
    | some (.tagPrefix handle) =>
      if handles.contains handle then refuse
      skip
      directives fuel seenVersion (handle :: handles)
    | _ =>
      modify fun s => { s with handles := handles }
      return seenVersion || !handles.isEmpty

/-- The content of a document; nothing where another document or the end follows. -/
def content (fuel : Nat) : Builder Node := do
  match (← peek) with
  | none | some .documentStart | some .documentEnd | some (.version ..) | some (.tagPrefix _) =>
    return .nothing
  | _ => node fuel true false

/-- The only document of the tokens. -/
def document : Builder Node := do
  let fuel := 4 * (← get).tokens.length + 4
  let directed ← directives fuel false []
  let root ← do
    if (← accept .documentStart) then content fuel
    else if directed || (← peek).isNone then refuse
    else node fuel true false
  let rec ends : Nat → Builder Unit
    | 0 => refuse
    | n + 1 => do if (← accept .documentEnd) then ends n else return ()
  ends fuel
  if (← peek).isSome then refuse
  return root

end Builder

/-- The one document of a text. -/
def document? (text : String) : Option Document := do
  let (root, s) ← Builder.document.run { tokens := ← tokens? text }
  return ⟨root, s.numbered⟩

end Quarantine.Yaml
