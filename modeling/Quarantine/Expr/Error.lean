import Quarantine.Expr.Token

/-!
# Errors of expressions

Why the text of an expression cannot be read, or why an expression has no value for a record.
-/

namespace Quarantine

open Quarantine.Expr

/-- A text that has no place in the notation. -/
inductive SyntaxFault where
  | lexical (fault : LexFault)
  | unexpected (t : Token)
  | trailing (t : Token)
  | noIdentifier (found : Token)
  | noInteger
  | noPattern
  | noMatchOperator
  /-- Something is missing that the notation has in this place. -/
  | missing (what : String)
  deriving DecidableEq

def SyntaxFault.message : SyntaxFault → String
  | lexical fault => fault.message
  | unexpected t => "unexpected token " ++ t.display
  | trailing t => "unexpected trailing token " ++ t.display
  | noIdentifier t => "expected an identifier, found " ++ t.display
  | noInteger => "expected an integer after '-'"
  | noPattern => "expected a string pattern"
  | noMatchOperator => "expected REGEXP or RLIKE"
  | missing what => "expected " ++ what

/-- What is wrong with a value that a function was given. -/
inductive TypeFault where
  /-- A pattern that is not written out. -/
  | patternNotLiteral (function : String)
  | groupOutOfRange (group : Int) (groups : Nat)
  | digestBits (bits : Int)
  /-- A value, as it is shown, that is not a whole number. -/
  | notInteger (shown : String)
  deriving DecidableEq

def TypeFault.message : TypeFault → String
  | patternNotLiteral f => f ++ " requires a string literal pattern"
  | groupOutOfRange i n =>
    "regexp_extract group " ++ toString i ++ " out of range, pattern has " ++ toString n ++
      " group(s)"
  | digestBits n => "sha2 bit length must be 224, 256, 384 or 512, got " ++ toString n
  | notInteger shown => "expected an integer, got " ++ shown

inductive ExprError where
  | syntaxFault (offset : Nat) (fault : SyntaxFault)
  | invalidPattern (pattern : String)
  | unknownFunction (name : String)
  | arity (name expected : String) (actual : Nat)
  | unsupportedCast (target : String)
  | missingColumn (name : String)
  | typeMismatch (fault : TypeFault)
  deriving DecidableEq

/-- What a message says in place of the reason that a pattern was refused for. -/
def ExprError.patternReason : String := "<regex>"

def ExprError.message : ExprError → String
  | syntaxFault offset fault =>
    "syntax error at offset " ++ toString offset ++ ": " ++ fault.message
  | invalidPattern p => "invalid regular expression '" ++ p ++ "': " ++ patternReason
  | unknownFunction name => "unknown function '" ++ name ++ "'"
  | arity name expected actual =>
    "function '" ++ name ++ "' expects " ++ expected ++ " argument(s), got " ++ toString actual
  | unsupportedCast target => "unsupported cast target '" ++ target ++ "'"
  | missingColumn name => "column '" ++ name ++ "' is not present in the record"
  | typeMismatch fault => "type mismatch: " ++ fault.message

end Quarantine
