import Quarantine.Expr.Token
import Quarantine.Pattern.Replacement
import Quarantine.Record

/-!
# Expressions

An expression computes a value from a record.  A predicate asks whether the text of an
expression matches a pattern; a redaction gives a column the value of an expression.

    columns e = the columns that e reads, in the order in which they are first met
-/

namespace Quarantine

open Quarantine.Json

inductive Expr where
  | column (name : String)
  | literal (v : Value)
  | castText (e : Expr)
  | concat (args : List Expr)
  /-- The characters from a position on. -/
  | substrFrom (subject pos : Expr)
  /-- As many characters from a position on as the length says. -/
  | substr (subject pos len : Expr)
  | regexpReplace (subject : Expr) (pattern : Pattern) (replacement : Expr)
  | regexpExtract (subject : Expr) (pattern : Pattern) (group : Expr)
  | upper (e : Expr)
  | lower (e : Expr)
  | sha2 (subject bits : Expr)
  deriving Inhabited

namespace Expr

/-! ## Columns -/

/-- Adds a name unless it is there. -/
def addName (names : List String) (name : String) : List String :=
  if names.contains name then names else names ++ [name]

mutual

/-- The columns already met, and those that the expression reads. -/
def columnsAfter (seen : List String) : Expr → List String
  | column name => addName seen name
  | literal _ => seen
  | castText e | upper e | lower e => e.columnsAfter seen
  | concat args => columnsOfAll seen args
  | substrFrom s p => p.columnsAfter (s.columnsAfter seen)
  | substr s p n => n.columnsAfter (p.columnsAfter (s.columnsAfter seen))
  | regexpReplace s _ r => r.columnsAfter (s.columnsAfter seen)
  | regexpExtract s _ g => g.columnsAfter (s.columnsAfter seen)
  | sha2 s b => b.columnsAfter (s.columnsAfter seen)

def columnsOfAll (seen : List String) : List Expr → List String
  | [] => seen
  | e :: rest => columnsOfAll (e.columnsAfter seen) rest

end

def columns (e : Expr) : List String := e.columnsAfter []

end Expr

/-! ## Predicates and redactions -/

/-- Holds of a record when the text of `subject` matches, or when it does not if `negated`. -/
structure Predicate where
  subject : Expr
  pattern : Pattern
  negated : Bool
  deriving Inhabited

/-- Gives column `target` the value of `expr`. -/
structure Redaction where
  expr : Expr
  target : String
  deriving Inhabited

end Quarantine
