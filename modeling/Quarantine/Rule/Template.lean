import Quarantine.Text.Blank

/-!
# Rule templates

A template is a row of the rule table; its three texts may hold a placeholder for a column.
Filling in replaces every placeholder, left to right, and does not look at what it put in.

    fill x s       = s with every placeholder replaced by x
    quoteName c    = c between backticks, each backtick of c written twice
-/

namespace Quarantine

open Quarantine.Text

structure Template where
  name : String
  constraint : String
  action : String
  deriving DecidableEq, Inhabited

structure RuleTable where
  templates : List Template
  deriving DecidableEq, Inhabited

/-! ## Placeholders -/

/-- The text that a column takes the place of. -/
def placeholder : String := "\x7b\x7d"

/-- Characters with every placeholder replaced. -/
def fillChars (fill : List Char) : List Char → List Char
  | '\x7b' :: '\x7d' :: rest => fill ++ fillChars fill rest
  | c :: rest => c :: fillChars fill rest
  | [] => []

def fill (column text : String) : String :=
  String.ofList (fillChars column.toList text.toList)

def holdsPlaceholder : List Char → Bool
  | '\x7b' :: '\x7d' :: _ => true
  | _ :: rest => holdsPlaceholder rest
  | [] => false

/-- A column as a quoted name of the rule notation. -/
def quoteName (column : String) : String :=
  String.ofList ('`' :: (column.toList.flatMap fun c => if c = '`' then ['`', '`'] else [c]) ++
    ['`'])

/-! ## Validation -/

/-- The longest constraint or action, in bytes. -/
def maxExpressionLength : Nat := 2000

/-- A fault of a rule table; a rule is given by the name of its template. -/
inductive TableFault where
  | noRules
  | emptyName
  | duplicateName (name : String)
  | emptyField (name field : String)
  | tooLong (name field : String) (length : Nat)
  | noPlaceholder (name : String)
  deriving DecidableEq

def TableFault.message : TableFault → String
  | noRules => "The rule table contains no rules."
  | emptyName => "A rule has an empty `name` field."
  | duplicateName name => "Duplicate rule name found: '" ++ name ++ "'."
  | emptyField name field => "Rule '" ++ name ++ "' has an empty `" ++ field ++ "` field."
  | tooLong name field length =>
    "Rule '" ++ name ++ "': " ++ field ++ " length (" ++ toString length ++
      ") exceeds maximum allowed (" ++ toString maxExpressionLength ++ ")."
  | noPlaceholder name =>
    "Rule '" ++ name ++ "' targets a column but its name has no '" ++ placeholder ++
      "' placeholder."

namespace Template

/-- The faults of a template after templates with the given names. -/
def faults (t : Template) (seen : List String) : List TableFault :=
  if allBlank t.name then [.emptyName]
  else
    let long (field text : String) : List TableFault :=
      if text.utf8ByteSize > maxExpressionLength then [.tooLong t.name field text.utf8ByteSize]
      else []
    let empty (field text : String) : List TableFault :=
      if allBlank text then [.emptyField t.name field] else []
    (if seen.contains t.name then [.duplicateName t.name] else []) ++
      empty "constraint" t.constraint ++ empty "action" t.action ++
      long "constraint" t.constraint ++ long "action" t.action ++
      (if holdsPlaceholder t.constraint.toList && !holdsPlaceholder t.name.toList then
        [.noPlaceholder t.name] else [])

end Template

namespace RuleTable

/-- The faults of templates after templates with the given names. -/
def faultsFrom (seen : List String) : List Template → List TableFault
  | [] => []
  | t :: rest => t.faults seen ++ faultsFrom (t.name :: seen) rest

def faults (table : RuleTable) : List TableFault :=
  (if table.templates.isEmpty then [.noRules] else []) ++ faultsFrom [] table.templates

end RuleTable
end Quarantine
