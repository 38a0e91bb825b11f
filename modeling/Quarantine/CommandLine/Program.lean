import Quarantine.CommandLine.Commands
import Quarantine.CommandLine.Variables

/-!
# The program

The program completes the variables of its environment from a file, reads its command line and
carries out the command.
-/

namespace Quarantine.CommandLine

def programName : String := "piisieve"

def programVersion : String := "0.1.0"

/-! ## Help -/

/-- A setting as help shows it. -/
def Setting.helpLine (s : Setting) : String :=
  "  " ++ s.letter?.elim "    " (fun c => String.ofList ['-', c, ',', ' ']) ++ s.shown ++
    s.environmentName?.elim "" fun v => " [env: " ++ v ++ "]"

/-- A command as help shows it, with the settings of its own. -/
def Verb.helpLines (v : Verb) : List String :=
  ["", v.word ++ ": " ++ v.about] ++ (Setting.own v).map Setting.helpLine

def helpText : String :=
  "\n".intercalate (["Usage: " ++ programName ++ " [OPTIONS] <COMMAND>", ""] ++
    (Setting.admitted none).map Setting.helpLine ++ Verb.all.flatMap Verb.helpLines)

/-- What a command line that is not carried out comes to. -/
def UsageError.result : UsageError → Result
  | helpAsked => ⟨0, helpText ++ "\n", []⟩
  | versionAsked => ⟨0, programName ++ " " ++ programVersion ++ "\n", []⟩
  | nothingGiven => ⟨Result.usageCode, "", [(.error, helpText)]⟩
  | e => ⟨Result.usageCode, "", [(.error, e.message)]⟩

/-- What the program comes to, for the variables of its environment, the directories that may
hold a file of further ones, and the words of its command line. -/
def program (environment : Variables) (directories : List Path) (words : List String) :
    Action Result := do
  let environment ← environment.complete directories
  match Arguments.read environment.get? words with
  | .error e => return e.result
  | .ok arguments => arguments.command.perform.result

end Quarantine.CommandLine
