import Quarantine.Log.Masked
import Quarantine.Rule.RuleSet

/-!
# Verdicts

Every rule of a set judges a record: it passes, it fails, or the rule cannot be asked.  Only
the first lets a record through.

    judge rules r = for each rule in turn, its name and its verdict on r
    failing js    = the names of the rules that did not pass, in order
-/

namespace Quarantine

inductive Verdict where
  | pass
  | fail
  | error (failure : Failure)
  deriving DecidableEq

namespace Verdict

def passed : Verdict → Bool
  | pass => true
  | fail | error _ => false

/-- The verdict that asking a rule gives. -/
def ofCheck : Except Failure Bool → Verdict
  | .ok true => pass
  | .ok false => fail
  | .error e => error e

end Verdict

/-- A rule by name, and its verdict. -/
structure Judgement where
  rule : String
  verdict : Verdict
  deriving DecidableEq

def Judgement.passed (j : Judgement) : Bool := j.verdict.passed

/-- The verdict of one rule. -/
def Rule.judge (rule : Rule) (r : Record) : Judgement := ⟨rule.name, .ofCheck (rule.check r)⟩

namespace RuleSet

def judge (s : RuleSet) (r : Record) : List Judgement := s.rules.map (·.judge r)

end RuleSet

namespace Judgement

def allPassed (js : List Judgement) : Bool := js.all passed

/-- The rules that did not pass. -/
def failing (js : List Judgement) : List String := (js.filter (!·.passed)).map rule

/-- The verdict of the rule with a name. -/
def find? (js : List Judgement) (name : String) : Option Verdict :=
  (js.find? (·.rule == name)).map verdict

end Judgement

/-! ## Log -/

/-- The log of asking a rule: the masked value that it failed on, or the failure. -/
def Rule.judgeLog (rule : Rule) (r : Record) : List Log.Line :=
  match (rule.judge r).verdict with
  | .pass => []
  | .fail =>
    match r.get? rule.column with
    | some v =>
      [Log.debug ("Rule '" ++ rule.name ++ "' failed on value " ++ Log.loggable v.render)]
    | none => []
  | .error e => [Log.debug e.message]

def RuleSet.judgeLog (s : RuleSet) (r : Record) : List Log.Line := s.rules.flatMap (·.judgeLog r)

end Quarantine
