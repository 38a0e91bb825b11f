import Quarantine.CommandLine.Reading

/-!
# Arguments

A command line is a command with its settings.  Paths that it does not give are taken from the
environment, and after that those that a command cannot do without must be there.
-/

namespace Quarantine.CommandLine

/-! ## Commands -/

/-- Where the rules come from, and the columns that they are for. -/
structure RuleChoice where
  /-- The file of a rule table, in place of the standard one. -/
  table : Option Path
  /-- The columns; none, if they are to be inferred. -/
  columns : List String
  deriving DecidableEq

structure RunCommand where
  inputPath : Path
  tablePath : Path
  rules : RuleChoice
  partitions : Option Nat
  frozen : Bool
  json : Bool
  deriving DecidableEq

structure RulesCommand where
  rules : RuleChoice
  inputPath : Option Path
  deriving DecidableEq

structure MetricsCommand where
  tablePath : Path
  window : Option Int
  json : Bool
  deriving DecidableEq

structure ReprocessCommand where
  tablePath : Path
  rules : RuleChoice
  output : Option Path
  deriving DecidableEq

inductive Command where
  | run (c : RunCommand)
  | rules (c : RulesCommand)
  | metrics (c : MetricsCommand)
  | reprocess (c : ReprocessCommand)
  deriving DecidableEq

structure Arguments where
  quiet : Bool
  debug : Bool
  command : Command
  deriving DecidableEq

/-- What a log is limited to. -/
inductive LogLimit where
  | nothing
  | debug
  deriving DecidableEq

namespace Arguments

/-- The limit that the settings ask for; to ask for nothing wins. -/
def logLimit (a : Arguments) : Option LogLimit :=
  if a.quiet then some .nothing else if a.debug then some .debug else none

end Arguments

/-! ## Settings to commands -/

namespace Given

/-- Takes the paths that are not given from the environment. -/
def complete (lookup : String → Option String) : Given → List Setting → Except UsageError Given
  | g, [] => .ok g
  | g, s :: rest =>
    match if g.has s then none else s.environmentName?.bind lookup with
    | none => complete lookup g rest
    | some text => do complete lookup (← g.put s text) rest

def rules (g : Given) : RuleChoice := ⟨g.ruleTable, g.columns⟩

/-- The command, if all is there that it needs. -/
def command? (g : Given) : Verb → Option Command
  | .run => do
    return .run ⟨← g.inputPath, ← g.tablePath, g.rules, g.partitions, g.frozen, g.json⟩
  | .rules => some (.rules ⟨g.rules, g.inputPath⟩)
  | .metrics => do return .metrics ⟨← g.tablePath, g.window, g.json⟩
  | .reprocess => do return .reprocess ⟨← g.tablePath, g.rules, g.output⟩

/-- The command, with the paths of the environment. -/
def command (lookup : String → Option String) (g : Given) (verb : Verb) :
    Except UsageError Command := do
  let g ← g.complete lookup (Setting.own verb)
  match g.command? verb with
  | some c => .ok c
  | none => .error (.missing ((Setting.required verb).filter fun s => !g.has s))

end Given

/-! ## Command lines -/

/-- The word that asks for help, like a command. -/
def helpWord : String := "help"

/-- Whether a word is one of those that a command line may go on with. -/
def isCommandWord (word : String) : Bool := word == helpWord || (Verb.ofWord? word).isSome

/-- What asking for help on some words comes to. -/
def helpOn : List String → UsageError
  | [] => .helpAsked
  | [word] => if isCommandWord word then .helpAsked else .unknownCommand word
  | word :: next :: _ => .unknownCommand (if isCommandWord word then next else word)

namespace Arguments

/-- What a command line without a command comes to. -/
def withoutCommand (r : Reading) : UsageError :=
  if r.given.quiet || r.given.debug then .noCommand else .nothingGiven

/-- Reads the words after a command, which may repeat what stands before it. -/
def ofVerb (lookup : String → Option String) (before : Given) (verb : Verb)
    (words : List String) : Except UsageError Arguments := do
  let g ← Reading.start.words verb words
  return ⟨before.quiet || g.quiet, before.debug || g.debug, ← g.command lookup verb⟩

/-- Reads the words up to the command and goes on with those after it. -/
def readFrom (lookup : String → Option String) (r : Reading) :
    List String → Except UsageError Arguments
  | [] => .error (withoutCommand r)
  | w :: rest =>
    if w = helpWord then .error (helpOn rest)
    else match Verb.ofWord? w with
    | some verb => ofVerb lookup r.given verb rest
    | none =>
      match Word.of w with
      | .separator =>
        match rest with
        | [] => .error (withoutCommand r)
        | next :: _ =>
          .error (if isCommandWord next then .unknownArgument next else .unknownCommand next)
      | .long name value => do readFrom lookup (← r.long none name value) rest
      | .letters cs => do readFrom lookup (← r.letters none cs) rest
      | .plain text => .error (.unknownCommand text)

/-- Reads a command line. -/
def read (lookup : String → Option String) (words : List String) : Except UsageError Arguments :=
  readFrom lookup .start words

end Arguments
end Quarantine.CommandLine
