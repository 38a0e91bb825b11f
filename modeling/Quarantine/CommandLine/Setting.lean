/-!
# Commands and settings

The words of a command line: four commands, and the settings that each takes.  A setting has a
long name, and some have a letter and an environment variable.  Two settings are for every
command and may also stand before it.

    a setting is found by its long name, and by its letter, where it is admitted
-/

namespace Quarantine.CommandLine

/-- The commands. -/
inductive Verb where
  | run
  | rules
  | metrics
  | reprocess
  deriving DecidableEq

namespace Verb

def all : List Verb := [run, rules, metrics, reprocess]

def word : Verb → String
  | run => "run"
  | rules => "rules"
  | metrics => "metrics"
  | reprocess => "reprocess"

def about : Verb → String
  | run => "Process all pending input files into the tables under a root."
  | rules => "List the compiled rules for a set of columns and flag invalid expressions."
  | metrics => "Show totals per rule and the rules whose redaction is selected."
  | reprocess => "Re-apply the current redactions to every committed quarantined record."

def ofWord? (word : String) : Option Verb := all.find? fun v => v.word == word

end Verb

inductive Setting where
  | quiet
  | debug
  | help
  | version
  | inputPath
  | tablePath
  | ruleTable
  | columns
  | partitions
  | frozen
  | json
  | window
  | output
  deriving DecidableEq

namespace Setting

def long : Setting → String
  | quiet => "quiet"
  | debug => "debug"
  | help => "help"
  | version => "version"
  | inputPath => "input-path"
  | tablePath => "table-path"
  | ruleTable => "rules"
  | columns => "columns"
  | partitions => "partitions"
  | frozen => "freeze-redactions"
  | json => "json"
  | window => "window-secs"
  | output => "output"

def letter? : Setting → Option Char
  | quiet => some 'q'
  | debug => some 'd'
  | help => some 'h'
  | version => some 'V'
  | inputPath => some 'i'
  | tablePath => some 't'
  | output => some 'o'
  | _ => none

/-- The environment variable that gives the value if the command line does not. -/
def environmentName? : Setting → Option String
  | inputPath => some "PIISIEVE_INPUT_PATH"
  | tablePath => some "PIISIEVE_TABLE_PATH"
  | ruleTable => some "PIISIEVE_RULES"
  | _ => none

/-- What a value is called; a setting without one is on or off. -/
def valueName? : Setting → Option String
  | inputPath | tablePath => some "DIR"
  | ruleTable | output => some "FILE"
  | columns => some "COLS"
  | partitions => some "N"
  | window => some "SECS"
  | _ => none

def takesValue (s : Setting) : Bool := s.valueName?.isSome

/-- The setting as it is written. -/
def shown (s : Setting) : String :=
  "--" ++ s.long ++ s.valueName?.elim "" fun name => " <" ++ name ++ ">"

/-- The settings that only a command takes. -/
def own : Verb → List Setting
  | .run => [inputPath, tablePath, ruleTable, columns, partitions, frozen, json]
  | .rules => [ruleTable, columns, inputPath]
  | .metrics => [tablePath, window, json]
  | .reprocess => [tablePath, ruleTable, columns, output]

/-- The settings before the command, or after it. -/
def admitted : Option Verb → List Setting
  | none => [quiet, debug, help, version]
  | some verb => own verb ++ [quiet, debug, help]

/-- The settings that a command cannot do without. -/
def required : Verb → List Setting
  | .run => [inputPath, tablePath]
  | .rules => []
  | .metrics | .reprocess => [tablePath]

def ofLong? (place : Option Verb) (name : String) : Option Setting :=
  (admitted place).find? fun s => s.long == name

def ofLetter? (place : Option Verb) (c : Char) : Option Setting :=
  (admitted place).find? fun s => s.letter? == some c

end Setting

/-! ## Errors -/

/-- Why a command line is not carried out. -/
inductive UsageError where
  | helpAsked
  | versionAsked
  /-- Nothing is given at all. -/
  | nothingGiven
  | noCommand
  | unknownCommand (word : String)
  | unknownArgument (word : String)
  | missing (settings : List Setting)
  /-- A value that is not there, or an empty one where that means nothing. -/
  | emptyValue (setting : Setting)
  | malformedValue (setting : Setting) (value : String)
  | repeated (setting : Setting)
  /-- A value for a setting that takes none. -/
  | surplusValue (setting : Setting) (value : String)
  deriving DecidableEq

namespace UsageError

def message : UsageError → String
  | helpAsked | versionAsked | nothingGiven => ""
  | noCommand => "a command is required"
  | unknownCommand word => "unrecognized command '" ++ word ++ "'"
  | unknownArgument word => "unexpected argument '" ++ word ++ "'"
  | missing settings =>
    "required but not provided: " ++ ", ".intercalate (settings.map Setting.shown)
  | emptyValue s => "a value is required for '" ++ s.shown ++ "'"
  | malformedValue s value => "invalid value '" ++ value ++ "' for '" ++ s.shown ++ "'"
  | repeated s => "'" ++ s.shown ++ "' cannot be used more than once"
  | surplusValue s value => "unexpected value '" ++ value ++ "' for '" ++ s.shown ++ "'"

/-- Whether what was asked for is given by the answer itself. -/
def isAnswer : UsageError → Bool
  | helpAsked | versionAsked => true
  | _ => false

end UsageError
end Quarantine.CommandLine
