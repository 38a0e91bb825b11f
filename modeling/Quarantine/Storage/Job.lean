import Quarantine.Failure
import Quarantine.Storage.Action

/-!
# Jobs

A job is an action that may fail.  The jobs here are those of files as wholes: a directory
with all that it is in, the text of a file, and a file that appears only when it is complete.
-/

namespace Quarantine

abbrev Job := ExceptT Failure Action

namespace Job

/-- A single operation, whether it succeeds or not. -/
def attempt (op : Operation) : Job (Except SystemError op.Reply) :=
  ExceptT.lift (Action.ask op)

/-- A single operation that must succeed. -/
def ask (op : Operation) : Job op.Reply :=
  ExceptT.mk ((Action.ask op).bind fun reply => .done (reply.mapError Failure.io))

/-- What a path leads to, if it leads anywhere. -/
def kind? (path : Path) : Job (Option Kind) :=
  ExceptT.lift ((Action.ask (.inspect path)).bind fun reply => .done reply.toOption)

def exists? (path : Path) : Job Bool := return (← kind? path).isSome

def isDirectory (path : Path) : Job Bool := return (← kind? path) == some .directory

/-- Takes the reply to making a directory; that it is there already is no failure. -/
def settleDirectory (path : Path) : Except SystemError Unit → Job Unit
  | .ok _ => pure ()
  | .error e => do
    if ← isDirectory path then pure () else throw (.io e)

/-- Makes the first of some directories, and before it, if need be, those that it is in. -/
def makeDirectories : List Path → Job Unit
  | [] => pure ()
  | path :: outer => do
    match ← attempt (.makeDirectory path) with
    | .error .notFound =>
      makeDirectories outer
      settleDirectory path (← attempt (.makeDirectory path))
    | reply => settleDirectory path reply

/-- Makes a directory and all that it is in. -/
def ensureDirectory (path : Path) : Job Unit := makeDirectories path.ancestors

def readText (path : Path) : Job String := do
  match String.fromUTF8? (← ask (.read path)) with
  | some text => return text
  | none => throw (.io .notText)

/-- Writes a file that has its name only when all of it is written. -/
def writeWhole (path : Path) (content : String) : Job Unit := do
  ask (.create path.temporary)
  ask (.append path.temporary content.toUTF8)
  ask (.rename path.temporary path)

end Job
end Quarantine
