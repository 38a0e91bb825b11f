import Quarantine.Expr.Error
import Quarantine.Expr.Tree
import Quarantine.Text.Case

/-!
# Reading predicates and redactions

    predicate := expr [NOT] (REGEXP | RLIKE) ( text | '(' text ')' ) [AS identifier]
    redaction := expr AS identifier
    expr      := text | ['-'] number | NULL
               | CAST '(' expr AS identifier ')'
               | word '(' [expr {',' expr}] ')'
               | word | name

Keywords are words in any case of ASCII letters; an identifier is a word or a quoted name.
An error that stands for a token already taken carries the place of the token after it.
-/

namespace Quarantine.Expr

open Quarantine.Text Quarantine.Json

/-! ## Function calls -/

/-- The value of a whole number that is written with or without a minus sign. -/
def integerValue (negative : Bool) (n : Natural63) : Value :=
  match negative, n with
  | true, ⟨m + 1, h⟩ => .number (.negative ⟨m, by omega⟩)
  | _, n => .number (.natural ⟨n.val, by omega⟩)

/-- The pattern that a text writes. -/
def patternOf (text : String) : Except ExprError Pattern :=
  match Pattern.compile? text with
  | some p => .ok p
  | none => .error (.invalidPattern text)

/-- The pattern of an argument, which is a text written out. -/
def literalPattern (function : String) : Expr → Except ExprError Pattern
  | literal (.string text) => patternOf text
  | _ => .error (.typeMismatch (.patternNotLiteral function))

/-- A call of a function by name; names do not depend on the case of ASCII letters. -/
def call (name : String) (args : List Expr) : Except ExprError Expr :=
  let function := asciiLower name
  let arity (expected : String) : Except ExprError Expr :=
    .error (.arity function expected args.length)
  match function with
  | "concat" => if args.isEmpty then arity "at least 1" else .ok (concat args)
  | "substr" | "substring" =>
    match args with
    | [s, p] => .ok (substrFrom s p)
    | [s, p, n] => .ok (substr s p n)
    | _ => arity "2 or 3"
  | "regexp_replace" =>
    match args with
    | [s, p, r] => (literalPattern function p).map (regexpReplace s · r)
    | _ => arity "3"
  | "regexp_extract" =>
    match args with
    | [s, p] => (literalPattern function p).map (regexpExtract s · (literal (integerValue false 1)))
    | [s, p, g] => (literalPattern function p).map (regexpExtract s · g)
    | _ => arity "2 or 3"
  | "upper" =>
    match args with
    | [e] => .ok (upper e)
    | _ => arity "1"
  | "lower" =>
    match args with
    | [e] => .ok (lower e)
    | _ => arity "1"
  | "sha2" =>
    match args with
    | [s, b] => .ok (sha2 s b)
    | _ => arity "2"
  | _ => .error (.unknownFunction name)

/-! ## Steps of reading -/

/-- What is left to read: tokens, and the length of the text in bytes. -/
structure Rest where
  lexemes : List Lexeme
  stop : Nat

namespace Rest

def peek (r : Rest) : Token :=
  match r.lexemes with
  | [] => .stop
  | l :: _ => l.token

/-- The place of the next token, or of the end. -/
def offset (r : Rest) : Nat :=
  match r.lexemes with
  | [] => r.stop
  | l :: _ => l.offset

def next (r : Rest) : Rest := { r with lexemes := r.lexemes.drop 1 }

def fail {α : Type} (r : Rest) (fault : SyntaxFault) : Except ExprError α :=
  .error (.syntaxFault r.offset fault)

/-- Whether the next token is a keyword, given in upper case. -/
def isKeyword (r : Rest) (keyword : String) : Bool :=
  match r.peek with
  | .word s => asciiUpper s == keyword
  | _ => false

def keyword (r : Rest) (keyword : String) : Except ExprError Rest :=
  if r.isKeyword keyword then .ok r.next else r.fail (.missing keyword)

def closeParen (r : Rest) : Except ExprError Rest :=
  if r.peek = .closeParen then .ok r.next else r.fail (.missing "')'")

def finished (r : Rest) : Except ExprError Unit :=
  match r.peek with
  | .stop => .ok ()
  | t => r.fail (.trailing t)

def identifier (r : Rest) : Except ExprError (String × Rest) :=
  match r.peek with
  | .word s | .name s => .ok (s, r.next)
  | t => r.next.fail (.noIdentifier t)

end Rest

/-! ## Expressions -/

/-- The expression that a cast makes. -/
def cast (target : String) (inner : Expr) : Except ExprError Expr :=
  if asciiUpper target = "STRING" ∨ asciiUpper target = "VARCHAR" then .ok (castText inner)
  else .error (.unsupportedCast target)

mutual

def readExpr (fuel : Nat) (r : Rest) : Except ExprError (Expr × Rest) :=
  match fuel with
  | 0 => r.fail (.unexpected r.peek)
  | fuel + 1 =>
    let after := r.next
    match r.peek with
    | .text s => .ok (literal (.string s), after)
    | .number n => .ok (literal (integerValue false n), after)
    | .minus =>
      match after.peek with
      | .number n => .ok (literal (integerValue true n), after.next)
      | _ => after.next.fail .noInteger
    | .name s => .ok (column s, after)
    | .word s =>
      if asciiUpper s = "NULL" then .ok (literal .null, after)
      else if after.peek ≠ .openParen then .ok (column s, after)
      else if asciiUpper s = "CAST" then do
        let (inner, r) ← readExpr fuel after.next
        let r ← r.keyword "AS"
        let (target, r) ← r.identifier
        let r ← r.closeParen
        return (← cast target inner, r)
      else do
        let (args, r) ←
          if after.next.peek = .closeParen then pure ([], after.next)
          else readArgs fuel after.next
        let r ← r.closeParen
        return (← call s args, r)
    | t => after.fail (.unexpected t)

/-- Arguments up to the closing parenthesis; at least one. -/
def readArgs (fuel : Nat) (r : Rest) : Except ExprError (List Expr × Rest) :=
  match fuel with
  | 0 => r.fail (.unexpected r.peek)
  | fuel + 1 => do
    let (e, r) ← readExpr fuel r
    if r.peek = .comma then
      let (rest, r) ← readArgs fuel r.next
      return (e :: rest, r)
    else return ([e], r)

end

/-! ## Predicates and redactions -/

/-- The tokens of a text as something to read. -/
def start (text : String) : Except ExprError Rest :=
  match tokens text with
  | .ok (lexemes, stop) => .ok ⟨lexemes, stop⟩
  | .error (offset, fault) => .error (.syntaxFault offset (.lexical fault))

/-- The expression at the start of what is left. -/
def expression (r : Rest) : Except ExprError (Expr × Rest) :=
  readExpr (2 * r.lexemes.length + 2) r

/-- A text that is a pattern, with or without parentheses. -/
def patternText (r : Rest) : Except ExprError (String × Rest) :=
  let enclosed := r.peek = .openParen
  let r := if enclosed then r.next else r
  match r.peek with
  | .text s => if enclosed then r.next.closeParen.map (s, ·) else .ok (s, r.next)
  | _ => r.next.fail .noPattern

def parsePredicate (text : String) : Except ExprError Predicate := do
  let r ← start text
  let (subject, r) ← expression r
  let negated := r.isKeyword "NOT"
  let r := if negated then r.next else r
  let r ←
    if r.isKeyword "REGEXP" || r.isKeyword "RLIKE" then pure r.next
    else r.fail .noMatchOperator
  let (source, r) ← patternText r
  let pattern ← patternOf source
  let r ← if r.isKeyword "AS" then (r.next.identifier).map Prod.snd else pure r
  r.finished
  return ⟨subject, pattern, negated⟩

def parseRedaction (text : String) : Except ExprError Redaction := do
  let r ← start text
  let (expr, r) ← expression r
  let r ← r.keyword "AS"
  let (target, r) ← r.identifier
  r.finished
  return ⟨expr, target⟩

end Quarantine.Expr
