import Quarantine.Display.Theme
import Quarantine.Storage.Job

/-!
# Sessions

A session is what a command does: it acts, writes to the output, tells messages, and may stop
before its end with the reasons for it.  What was written until then stays written.
-/

namespace Quarantine.CommandLine

/-- What was written and told so far. -/
structure Transcript where
  output : String
  messages : List (Tone × String)

/-- Why a session stops. -/
inductive Stop where
  /-- The reason, and what is behind it. -/
  | failed (reasons : List String)
  /-- A number is beyond what can be computed with. -/
  | outOfRange
  deriving DecidableEq

abbrev Session := ExceptT Stop (StateT Transcript Action)

namespace Session

def write (text : String) : Session Unit :=
  modify fun t => { t with output := t.output ++ text }

/-- Writes a text with a line feed. -/
def writeLine (text : String) : Session Unit := write (text ++ "\n")

def tell (tone : Tone) (text : String) : Session Unit :=
  modify fun t => { t with messages := t.messages ++ [(tone, text)] }

def fail {α : Type} (reason : String) : Session α := throw (.failed [reason])

def act {α : Type} (a : Action α) : Session α := ExceptT.lift (StateT.lift a)

/-- The reasons for a failure, what was tried in front. -/
def inContext (tried : String) (e : Failure) : List String := tried :: e.message :: e.causes

/-- What was tried, and the error behind its failure. -/
def behind (tried : String) (e : Failure) : List String := tried :: e.causes

/-- Goes on with a result, or stops with the reasons for its failure. -/
def check {α : Type} (reasons : Failure → List String) : Except Failure α → Session α
  | .ok a => pure a
  | .error e => throw (.failed (reasons e))

/-- Does a job that must succeed. -/
def perform {α : Type} (reasons : Failure → List String) (job : Job α) : Session α := do
  check reasons (← act job.run)

end Session

/-! ## Results -/

/-- How a program ended. -/
structure Result where
  code : Nat
  output : String
  messages : List (Tone × String)

namespace Result

/-- The codes of programs that did not do what they were asked for. -/
def failedCode : Nat := 1
def usageCode : Nat := 2
def outOfRangeCode : Nat := 101

/-- The messages as lines. -/
def errors (r : Result) (colored : Bool) : String :=
  String.join (r.messages.map fun (tone, text) => Theme.standard.message colored tone text)

end Result

def Stop.code : Stop → Nat
  | failed _ => Result.failedCode
  | outOfRange => Result.outOfRangeCode

def Stop.message : Stop → String
  | failed reasons => ": ".intercalate reasons
  | outOfRange => "a number is out of range"

/-- What a session comes to. -/
def Session.result (s : Session Unit) : Action Result := do
  let (stop, t) ← s.run.run ⟨"", []⟩
  return match stop with
    | .ok () => ⟨0, t.output, t.messages⟩
    | .error stop => ⟨stop.code, t.output, t.messages ++ [(.error, stop.message)]⟩

end Quarantine.CommandLine
