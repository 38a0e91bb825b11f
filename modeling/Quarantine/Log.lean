/-!
# Log lines

What an operation would write to a log is part of its result: a list of lines in order.
-/

namespace Quarantine

inductive Log.Level where
  | debug
  | warn
  deriving DecidableEq

structure Log.Line where
  level : Log.Level
  text : String
  deriving DecidableEq

namespace Log

def debug (text : String) : Line := ⟨.debug, text⟩

def warn (text : String) : Line := ⟨.warn, text⟩

def Line.display (l : Line) : String :=
  (match l.level with
    | .debug => "DEBUG "
    | .warn => "WARN ") ++ l.text

end Log
end Quarantine
