import Quarantine.Expr.Error
import Quarantine.Storage.SystemError

/-!
# Failures

What may go wrong beyond the text of one expression.  A failure of a rule carries the error of
its expression, and a failure of the file system the error of that.
-/

namespace Quarantine

/-- Which half of a log entry's meaning is missing. -/
inductive EntryFault where
  | notJson
  | noProgress
  | noQuality
  | noExpectations
  | noText (field : String)
  | noCount (field : String)
  deriving DecidableEq

/-- What a message says in place of the reason that a JSON text was refused for. -/
def jsonReason : String := "<json>"

def EntryFault.message : EntryFault → String
  | notJson => "details are not valid JSON (" ++ jsonReason ++ ")"
  | noProgress => "missing 'flow_progress'"
  | noQuality => "missing 'data_quality'"
  | noExpectations => "missing 'expectations' array"
  | noText field => "expectation without string '" ++ field ++ "'"
  | noCount field => "expectation without count '" ++ field ++ "'"

inductive Failure where
  | duplicateRule (name template column : String)
  | expression (rule : String) (source : ExprError)
  | evaluation (rule : String) (source : ExprError)
  | aggregation (entry time : String) (fault : EntryFault)
  | redaction (rule : String) (source : ExprError)
  | io (error : SystemError)
  | serialization
  | fatal (reason : String)
  deriving DecidableEq

def Failure.message : Failure → String
  | duplicateRule name template column =>
    "Rule name '" ++ name ++ "' is produced more than once (template '" ++ template ++
      "', column '" ++ column ++ "')"
  | expression rule e => "Rule '" ++ rule ++ "' has an invalid expression: " ++ e.message
  | evaluation rule e => "Failed to evaluate rule '" ++ rule ++ "': " ++ e.message
  | aggregation entry time fault =>
    "Malformed progress log entry: entry '" ++ entry ++ "' at " ++ time ++ ": " ++ fault.message
  | redaction rule e => "Redaction '" ++ rule ++ "' failed: " ++ e.message
  | io e => "An unexpected I/O error occurred: " ++ e.message
  | serialization => "Serialization failed: " ++ jsonReason
  | fatal reason => "A fatal error occurred: " ++ reason

/-- The errors behind a failure. -/
def Failure.causes : Failure → List String
  | expression _ e | evaluation _ e | redaction _ e => [e.message]
  | io e => [e.message]
  | serialization => [jsonReason]
  | duplicateRule .. | aggregation .. | fatal _ => []

end Quarantine
