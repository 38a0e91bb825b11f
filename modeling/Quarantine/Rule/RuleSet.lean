import Quarantine.Expr.Eval
import Quarantine.Expr.Parser
import Quarantine.Failure
import Quarantine.Log
import Quarantine.Rule.Template

/-!
# Rules and rule sets

A rule is a template bound to a column, its expressions read once.  A rule set holds the rules
for a list of columns: for each column in turn, one rule for each template in turn.  No two of
its rules share a name; a template that would make them do so is refused.

    compile table columns = the rules of columns × templates, or the first repeated name
    position? s n = some k ↔ rule k of s has the name n

A rule whose expression cannot be read is kept, and fails each time it is asked.
-/

namespace Quarantine

/-! ## Rules -/

structure Rule where
  name : String
  column : String
  template : String
  constraint : String
  action : String
  predicate : Except ExprError Predicate
  redaction : Except ExprError Redaction

namespace Rule

/-- A template for a column. -/
def expand (t : Template) (column : String) : Rule :=
  let constraint := fill (quoteName column) t.constraint
  let action := fill (quoteName column) t.action
  { name := fill column t.name
    column
    template := t.name
    constraint
    action
    predicate := Expr.parsePredicate constraint
    redaction := Expr.parseRedaction action }

/-- Whether a record passes the rule. -/
def check (rule : Rule) (r : Record) : Except Failure Bool :=
  match rule.predicate with
  | .error e => .error (.evaluation rule.name e)
  | .ok p =>
    match p.holds r with
    | .error e => .error (.evaluation rule.name e)
    | .ok b => .ok b

/-- The column that the action writes, and the value that it writes for a record. -/
def redact (rule : Rule) (r : Record) : Except Failure (String × Json.Value) :=
  match rule.redaction with
  | .error e => .error (.redaction rule.name e)
  | .ok red =>
    match red.evaluate r with
    | .error e => .error (.redaction rule.name e)
    | .ok v => .ok (red.target, v)

/-- The errors of expressions that cannot be read. -/
def expressionErrors (rule : Rule) : List Failure :=
  let of {α : Type} : Except ExprError α → List Failure
    | .error e => [.expression rule.name e]
    | .ok _ => []
  of rule.predicate ++ of rule.redaction

def isValid (rule : Rule) : Bool := rule.expressionErrors.isEmpty

/-- The log of binding the rule. -/
def log (rule : Rule) : List Log.Line :=
  rule.expressionErrors.map (Log.warn ·.message) ++
    [Log.debug ("Compiled rule '" ++ rule.name ++ "'.")]

end Rule

/-! ## Rule sets -/

structure RuleSet where
  rules : List Rule
  columns : List String
  distinct : (rules.map Rule.name).Nodup

namespace RuleSet

def empty : RuleSet := ⟨[], [], List.nodup_nil⟩

instance : Inhabited RuleSet := ⟨empty⟩

def names (s : RuleSet) : List String := s.rules.map Rule.name

def size (s : RuleSet) : Nat := s.rules.length

/-- The rules with an expression that cannot be read. -/
def invalid (s : RuleSet) : List Rule := s.rules.filter fun rule => !rule.isValid

/-- The place of the rule with a name. -/
def position? (s : RuleSet) (name : String) : Option Nat := s.rules.findIdx? (·.name == name)

def get? (s : RuleSet) (name : String) : Option Rule := s.rules.find? (·.name == name)

/-- Every template bound to every column, columns first. -/
def expansions (table : RuleTable) (columns : List String) : List (Template × Rule) :=
  columns.flatMap fun c => table.templates.map fun t => (t, Rule.expand t c)

/-- The first rule whose name an earlier one has, as a failure. -/
def firstDuplicate? (seen : List String) : List (Template × Rule) → Option Failure
  | [] => none
  | (t, rule) :: rest =>
    if seen.contains rule.name then some (.duplicateRule rule.name t.name rule.column)
    else firstDuplicate? (rule.name :: seen) rest

/-- Without a repeated name the names are distinct, and none is among those seen. -/
theorem nodup_of_firstDuplicate? {seen : List String} {xs : List (Template × Rule)}
    (h : firstDuplicate? seen xs = none) :
    ((xs.map Prod.snd).map Rule.name).Nodup ∧ ∀ x ∈ xs, x.2.name ∉ seen := by
  induction xs generalizing seen with
  | nil => simp
  | cons x rest ih =>
    obtain ⟨t, rule⟩ := x
    unfold firstDuplicate? at h
    split at h
    · contradiction
    · next hn =>
      obtain ⟨hd, hs⟩ := ih h
      have hns : rule.name ∉ seen := by simpa using hn
      refine ⟨?_, ?_⟩
      · simp only [List.map_cons, List.nodup_cons]
        refine ⟨?_, hd⟩
        intro hm
        obtain ⟨r, hr, he⟩ := List.mem_map.1 hm
        obtain ⟨y, hy, rfl⟩ := List.mem_map.1 hr
        exact hs y hy (he ▸ List.mem_cons_self)
      · intro y hy
        rcases List.mem_cons.1 hy with rfl | hy
        · exact hns
        · exact fun hm => hs y hy (List.mem_cons_of_mem _ hm)

/-- The rules of a table for some columns. -/
def compile (table : RuleTable) (columns : List String) : Except Failure RuleSet :=
  let all := expansions table columns
  match h : firstDuplicate? [] all with
  | some failure => .error failure
  | none => .ok ⟨all.map Prod.snd, columns, (nodup_of_firstDuplicate? h).1⟩

/-- The log of a compilation that gave the rule set. -/
def log (s : RuleSet) (table : RuleTable) : List Log.Line :=
  Log.debug ("Compiling " ++ toString table.templates.length ++ " template(s) against " ++
      toString s.columns.length ++ " column(s).") ::
    (s.rules.flatMap Rule.log ++
      if s.rules.isEmpty then
        [Log.warn "No rules were compiled; every record will be routed clean."] else [])

end RuleSet
end Quarantine
