import Quarantine.Record
import Quarantine.Storage.Job
import Quarantine.Text.Blank

/-!
# Rows

A file of rows holds a JSON text in each line that is not blank.  A row that cannot be taken is
told by the path of the file and the number of the line; the first one decides.
-/

namespace Quarantine

open Quarantine.Json Quarantine.Text

namespace Rows

/-- The failure of a line, by its number. -/
def malformed (path : Path) (number : Nat) (reason : String) : Failure :=
  .fatal (path.text ++ ":" ++ toString number ++ ": " ++ reason)

/-- The rows of numbered lines. -/
def ofLines {α : Type} (path : Path) (row : String → Except String α) :
    List (String × Nat) → Except Failure (List α)
  | [] => .ok []
  | (line, n) :: rest =>
    if allBlank line then ofLines path row rest
    else match row line with
      | .error reason => .error (malformed path n reason)
      | .ok a => (ofLines path row rest).map (a :: ·)

def ofText {α : Type} (path : Path) (row : String → Except String α) (text : String) :
    Except Failure (List α) := ofLines path row ((lines text).zipIdx 1)

/-! ## Records -/

def record (line : String) : Except String Record :=
  match Json.parse? line with
  | none => .error jsonReason
  | some v =>
    match Record.ofValue? v with
    | some r => .ok r
    | none => .error "expected a JSON object"

/-- The records of a text. -/
def records (path : Path) (text : String) : Except Failure (List Record) :=
  ofText path record text

/-! ## Files -/

/-- The byte that ends a line. -/
def lineFeed : UInt8 := 10

/-- The lines before the first that is no text. -/
def readableLines (content : ByteArray) : List String :=
  (((split lineFeed content.toList).map fun line => String.fromUTF8? ⟨line.toArray⟩).takeWhile
    Option.isSome).filterMap fun line => line.map fun s => String.ofList (dropReturn s.toList)

/-- The rows of a file, read line by line: a row that cannot be taken comes before a line that
is no text. -/
def ofBytes {α : Type} (path : Path) (row : String → Except String α) (content : ByteArray) :
    Except Failure (List α) :=
  match String.fromUTF8? content with
  | some text => ofText path row text
  | none =>
    match ofLines path row ((readableLines content).zipIdx 1) with
    | .error e => .error e
    | .ok _ => .error (.io .notText)

/-- A row as a function reads it. -/
def decoded {α : Type} (parse? : String → Option α) (line : String) : Except String α :=
  match parse? line with
  | some a => .ok a
  | none => .error jsonReason

/-- The text of rows, a line for each. -/
def render (rows : List Value) : String := String.join (rows.map fun v => v.render ++ "\n")

end Rows
end Quarantine
