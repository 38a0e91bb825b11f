import Quarantine.Log
import Quarantine.Rule.Template
import Quarantine.Yaml.Node

/-!
# Rule tables

A table is written in YAML as a mapping with a field `rules`, a sequence of mappings with the
fields `name`, `constraint` and `action`; other fields do not count.  There is a standard table
for card numbers, social security numbers, expiry dates, security codes, mail addresses and
network addresses.
-/

namespace Quarantine

namespace Yaml

/-- The text of a scalar. -/
def Document.text? (d : Document) (n : Node) : Option String :=
  match d.resolve n with
  | .scalar s _ => some s
  | _ => none

/-- The fields of a mapping, by the texts of their keys; nothing at all is an empty one. -/
def Document.fields? (d : Document) (n : Node) : Option (List (String × Node)) :=
  match d.resolve n with
  | .mapping entries => entries.mapM fun (k, v) => (d.text? k).map (·, v)
  | .scalar "" true => some []
  | _ => none

/-- The items of a sequence; nothing at all is an empty one. -/
def Document.items? (d : Document) (n : Node) : Option (List Node) :=
  match d.resolve n with
  | .sequence items => some items
  | .scalar "" true => some []
  | _ => none

/-- A field that is there exactly once. -/
def field? (fields : List (String × Node)) (name : String) : Option Node :=
  match fields.filter (·.1 == name) with
  | [(_, v)] => some v
  | _ => none

end Yaml

/-- Why a text is no rule table. -/
inductive TableError where
  | notReadable
  | invalid (faults : List TableFault)
  deriving DecidableEq

def TableError.message : TableError → String
  | notReadable => "Failed to parse rule table YAML"
  | invalid faults =>
    "Rule table validation failed:\n" ++ "\n".intercalate (faults.map TableFault.message)

namespace RuleTable

/-- The templates that a document holds. -/
def ofDocument? (d : Yaml.Document) : Option RuleTable := do
  let rules ← Yaml.field? (← d.fields? d.root) "rules"
  let templates ← (← d.items? rules).mapM fun n => do
    let fields ← d.fields? n
    let text (name : String) : Option String := (Yaml.field? fields name).bind d.text?
    return ⟨← text "name", ← text "constraint", ← text "action"⟩
  return ⟨templates⟩

/-- Reads and validates a table. -/
def ofYaml (text : String) : Except TableError RuleTable :=
  match (Yaml.document? text).bind ofDocument? with
  | none => .error .notReadable
  | some table =>
    if table.faults.isEmpty then .ok table else .error (.invalid table.faults)

/-! ## The standard table -/

/-- Numbers from 0 to 255 without leading zeros, as a pattern. -/
def octetPattern : String := "(?:[0-9]|[1-9][0-9]|1[0-9][0-9]|2[0-4][0-9]|25[0-5])"

/-- A constraint that the text of the column does not match a pattern. -/
def unlessMatches (pattern : String) : String :=
  "CAST(" ++ placeholder ++ " AS STRING) NOT REGEXP(\"" ++ pattern ++ "\") AS result"

/-- An action that puts the value of an expression into the column. -/
def becomes (expression : String) : String := expression ++ " AS " ++ placeholder

/-- The texts that stand for a value that is not shown. -/
def redactedText : String := "'[REDACTED]'"

/-- The default rules.  Applied to its own result an action changes nothing, but for the first
one on a value of fewer than three characters. -/
def standard : RuleTable := ⟨[
  { name := placeholder ++ " may contain creditcard"
    constraint := unlessMatches ("^(?:4[0-9]\x7b12\x7d(?:[0-9]\x7b3\x7d)?" ++
      "|[25][1-7][0-9]\x7b14\x7d|6(?:011|5[0-9][0-9])[0-9]\x7b12\x7d|3[47][0-9]\x7b13\x7d" ++
      "|3(?:0[0-5]|[68][0-9])[0-9]\x7b11\x7d|(?:2131|1800|35\\d\x7b3\x7d)\\d\x7b11\x7d)$")
    action := becomes ("concat('XXXXXXXXXXXXXXXX', substr(" ++ placeholder ++ ", -3, 3))") },
  { name := placeholder ++ " may contain ssn"
    constraint := unlessMatches "^\\d\x7b3\x7d-\\d\x7b2\x7d-\\d\x7b4\x7d$"
    action := becomes redactedText },
  { name := placeholder ++ " may contain expiry date"
    constraint := unlessMatches "^\\d\x7b2\x7d/\\d\x7b2\x7d$"
    action := becomes ("regexp_replace(" ++ placeholder ++ ", '^(0[1-9]|1[0-2])', 'XX')") },
  { name := placeholder ++ " may contain security code"
    constraint := unlessMatches "^\\d\x7b3\x7d$"
    action := becomes redactedText },
  { name := placeholder ++ " may contain email address"
    constraint := unlessMatches "\\w@\\w.\\w"
    action := becomes ("regexp_replace(" ++ placeholder ++ ", '^.*@', '')") },
  { name := placeholder ++ " may contain ipv4"
    constraint := unlessMatches ("^(" ++ octetPattern ++ "[.])\x7b3\x7d" ++ octetPattern ++ "$")
    action := becomes redactedText }]⟩

/-- The log of taking the standard table. -/
def standardLog : List Log.Line :=
  [Log.debug "Loading default rule table from embedded string...",
    Log.debug ("Loaded " ++ toString standard.templates.length ++ " default rule templates.")]

end RuleTable
end Quarantine
