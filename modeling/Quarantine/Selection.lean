import Quarantine.Ascending
import Quarantine.Metrics.Event
import Quarantine.Rule.RuleSet

/-!
# Selecting redactions

Redactions are chosen from the history of events: the action of a rule is selected once the
rule has failed in some event.  The selected rules keep the order of the rule set; names of
failed rules that the set does not know are left aside.
-/

namespace Quarantine

/-! ## Failed rules -/

/-- The names of rules that have failed. -/
structure FailedRules where
  names : Ascending String

namespace FailedRules

def empty : FailedRules := ⟨.empty⟩

instance : Inhabited FailedRules := ⟨empty⟩

/-- The rules with failures in a history. -/
def ofEvents (events : List Event) : FailedRules :=
  ⟨.ofList ((events.filter Event.hasFailures).map Event.rule)⟩

def contains (f : FailedRules) (name : String) : Bool := f.names.contains name

def size (f : FailedRules) : Nat := f.names.size

/-- Whether every rule of `g` is in `f`. -/
def includes (f g : FailedRules) : Bool := g.names.items.all f.contains

/-- The failed rules that a rule set does not know. -/
def unknown (f : FailedRules) (rules : RuleSet) : List String :=
  f.names.items.filter fun n => (rules.get? n).isNone

end FailedRules

/-! ## Plans -/

/-- The rules whose redactions are applied, in order. -/
structure Plan where
  rules : List Rule

namespace Plan

def names (p : Plan) : List String := p.rules.map Rule.name

def size (p : Plan) : Nat := p.rules.length

/-- The redactions of the failed rules. -/
def select (failed : FailedRules) (rules : RuleSet) : Plan :=
  ⟨rules.rules.filter fun rule => failed.contains rule.name⟩

/-- The redactions for a history. -/
def ofEvents (events : List Event) (rules : RuleSet) : Plan :=
  select (.ofEvents events) rules

def selectLog (failed : FailedRules) (rules : RuleSet) : List Log.Line :=
  (failed.unknown rules).map (fun n =>
      Log.debug ("Ignoring failures of unknown rule '" ++ n ++ "'.")) ++
    [Log.debug ("Selected " ++ toString (select failed rules).size ++ " redaction(s).")]

end Plan
end Quarantine
