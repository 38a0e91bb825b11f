import Quarantine.CommandLine.Setting
import Quarantine.Decimal.Word
import Quarantine.Storage.Path
import Quarantine.Text.Split

/-!
# Reading settings

Settings are read from left to right.  A value may be attached to a long name by an equals sign,
to a letter with or without one, or be the next word; letters without values can share a word.
A value is looked at only when the next setting is found, or at the end: a word that means
nothing is told before a fault of the value in front of it.
-/

namespace Quarantine.CommandLine

/-! ## Values -/

/-- The values of the settings that were given. -/
structure Given where
  quiet : Bool
  debug : Bool
  frozen : Bool
  json : Bool
  inputPath : Option Path
  tablePath : Option Path
  ruleTable : Option Path
  output : Option Path
  columns : List String
  partitions : Option Nat
  window : Option Int

namespace Given

def nothing : Given where
  quiet := false
  debug := false
  frozen := false
  json := false
  inputPath := none
  tablePath := none
  ruleTable := none
  output := none
  columns := []
  partitions := none
  window := none

instance : Inhabited Given := ⟨nothing⟩

/-- A setting that is switched on, once. -/
def switch (s : Setting) (before : Bool) : Except UsageError Bool :=
  if before then .error (.repeated s) else .ok true

/-- A value that is given once. -/
def once {α : Type} (s : Setting) (before : Option α) (value? : String → Except UsageError α)
    (text : String) : Except UsageError (Option α) :=
  if before.isSome then .error (.repeated s) else (value? text).map some

def path (s : Setting) (text : String) : Except UsageError Path :=
  if text.isEmpty then .error (.emptyValue s) else .ok ⟨text⟩

/-- A value that a function reads. -/
def parsed {α : Type} (s : Setting) (value? : List Char → Option α) (text : String) :
    Except UsageError α :=
  (value? text.toList).elim (.error (.malformedValue s text)) .ok

/-- The columns in a value, between commas. -/
def columnNames (text : String) : List String := (Text.split ',' text.toList).map String.ofList

/-- Takes a setting that has no value. -/
def raise (g : Given) (s : Setting) : Except UsageError Given :=
  match s with
  | .help => .error .helpAsked
  | .version => .error .versionAsked
  | .quiet => return { g with quiet := ← switch s g.quiet }
  | .debug => return { g with debug := ← switch s g.debug }
  | .frozen => return { g with frozen := ← switch s g.frozen }
  | .json => return { g with json := ← switch s g.json }
  | _ => .error (.emptyValue s)

/-- Takes a setting with its value. -/
def put (g : Given) (s : Setting) (text : String) : Except UsageError Given :=
  match s with
  | .inputPath => return { g with inputPath := ← once s g.inputPath (path s) text }
  | .tablePath => return { g with tablePath := ← once s g.tablePath (path s) text }
  | .ruleTable => return { g with ruleTable := ← once s g.ruleTable (path s) text }
  | .output => return { g with output := ← once s g.output (path s) text }
  | .partitions =>
    return { g with partitions := ← once s g.partitions (parsed s Decimal.unsigned?) text }
  | .window => return { g with window := ← once s g.window (parsed s Decimal.signed?) text }
  | .columns => .ok { g with columns := g.columns ++ columnNames text }
  | _ => .error (.surplusValue s text)

/-- Whether a path has a value. -/
def has (g : Given) : Setting → Bool
  | .inputPath => g.inputPath.isSome
  | .tablePath => g.tablePath.isSome
  | .ruleTable => g.ruleTable.isSome
  | _ => false

end Given

/-! ## Words -/

/-- How a word is written. -/
inductive Word where
  /-- Two dashes: no setting comes after it. -/
  | separator
  | long (name : String) (value : Option String)
  /-- A dash and one letter or more. -/
  | letters (letters : List Char)
  | plain (text : String)

/-- A name, and the value after its first equals sign. -/
def Word.ofLong (cs : List Char) : Word :=
  let name := cs.takeWhile (· ≠ '=')
  match cs.drop name.length with
  | [] => .long (String.ofList name) none
  | _ :: value => .long (String.ofList name) (some (String.ofList value))

def Word.of (text : String) : Word :=
  match text.toList with
  | ['-', '-'] => .separator
  | '-' :: '-' :: cs => .ofLong cs
  | '-' :: c :: cs => .letters (c :: cs)
  | _ => .plain text

/-! ## Settings -/

/-- What was read: settings that are taken, and the last one with its value if it has that
already. -/
structure Reading where
  given : Given
  last : Option (Setting × Option String)

namespace Reading

def start : Reading := ⟨.nothing, none⟩

/-- Takes the last setting. -/
def settle (r : Reading) : Except UsageError Given :=
  match r.last with
  | none => .ok r.given
  | some (s, none) => .error (.emptyValue s)
  | some (s, some text) => r.given.put s text

/-- Takes a setting without a value. -/
def raise (r : Reading) (s : Setting) : Except UsageError Reading := do
  return ⟨← (← r.settle).raise s, none⟩

/-- Takes a setting with a value that is attached to it. -/
def attach (r : Reading) (s : Setting) (text : String) : Except UsageError Reading := do
  return ⟨← (← r.settle).put s text, none⟩

/-- Takes a setting whose value is the next word. -/
def await (r : Reading) (s : Setting) : Except UsageError Reading := do
  return ⟨← r.settle, some (s, none)⟩

def long (r : Reading) (place : Option Verb) (name : String) (value : Option String) :
    Except UsageError Reading :=
  match Setting.ofLong? place name with
  | none => .error (.unknownArgument ("--" ++ name))
  | some s =>
    match s.takesValue, value with
    | true, some text => r.attach s text
    | true, none => r.await s
    | false, some text => .error (.surplusValue s text)
    | false, none => r.raise s

/-- The value that the letters after a setting's letter are. -/
def attached? : List Char → Option String
  | [] => none
  | '=' :: value => some (String.ofList value)
  | value => some (String.ofList value)

def letters (r : Reading) (place : Option Verb) : List Char → Except UsageError Reading
  | [] => .ok r
  | c :: rest =>
    match Setting.ofLetter? place c with
    | none => .error (.unknownArgument (String.ofList ['-', c]))
    | some s =>
      if s.takesValue then
        match attached? rest with
        | some text => r.attach s text
        | none => r.await s
      else do (← r.raise s).letters place rest

/-- Takes a word that is no setting: the value of the last one, if it has none yet. -/
def plain (r : Reading) (text : String) : Except UsageError Reading :=
  match r.last with
  | some (s, none) => .ok ⟨r.given, some (s, some text)⟩
  | _ => .error (.unknownArgument text)

/-- Reads the words after a command. -/
def words (r : Reading) (verb : Verb) : List String → Except UsageError Given
  | [] => r.settle
  | w :: rest =>
    match Word.of w with
    | .separator =>
      match rest with
      | [] => r.settle
      | extra :: _ => .error (.unknownArgument extra)
    | .long name value => do (← r.long verb name value).words verb rest
    | .letters cs => do (← r.letters verb cs).words verb rest
    | .plain text => do (← r.plain text).words verb rest

end Reading
end Quarantine.CommandLine
