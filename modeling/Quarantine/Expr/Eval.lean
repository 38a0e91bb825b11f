import Quarantine.Digest.Sha2
import Quarantine.Expr.Error
import Quarantine.Expr.Tree
import Quarantine.Text.Blank
import Quarantine.Text.Case

/-!
# The value of an expression

Arguments are read as text or as whole numbers, from left to right; null among them makes the
value null, and what comes after it is not looked at.

    substr s pos len = the characters i of s with start ≤ i < start + len, where
                       start is pos - 1, |s| + pos or 0 for positive, negative or zero pos
    holds p r        = the text of the subject matches, or p is negated and it does not;
                       a subject that is null always passes
-/

namespace Quarantine

open Quarantine.Json Quarantine.Text

namespace Expr

/-! ## Whole numbers -/

/-- The least and the greatest whole number that a function takes. -/
def leastInt : Int := -0x8000000000000000
def greatestInt : Int := 0x7FFFFFFFFFFFFFFF

/-- The whole number that a text writes, with a sign or without. -/
def parseInt? (s : String) : Option Int :=
  let (negative, digits) :=
    match s.toList with
    | '-' :: ds => (true, ds)
    | '+' :: ds => (false, ds)
    | ds => (false, ds)
  if digits.isEmpty || !digits.all Char.isDigit then none
  else
    let n : Int := digitsValue digits
    let i := if negative then -n else n
    if leastInt ≤ i ∧ i ≤ greatestInt then some i else none

/-- A value as a whole number; null is none. -/
def integerOf (v : Value) : Except ExprError (Option Int) :=
  let refused (shown : String) : Except ExprError (Option Int) :=
    .error (.typeMismatch (.notInteger shown))
  match v with
  | .null => .ok none
  | .number n =>
    match n.toInt? with
    | some i => if i ≤ greatestInt then .ok (some i) else refused n.render
    | none => refused n.render
  | .string s =>
    match parseInt? (trim s) with
    | some i => .ok (some i)
    | none => refused ("'" ++ s ++ "'")
  | v => refused v.render

/-! ## Parts of a text -/

/-- The first index that `substr` takes. -/
def substrStart (length : Nat) (pos : Int) : Int :=
  if pos > 0 then pos - 1 else if pos < 0 then length + pos else 0

def substrChars (cs : List Char) (pos len : Int) : List Char :=
  let start := substrStart cs.length pos
  let first := max start 0
  let stop := min (start + len) cs.length
  (cs.drop first.toNat).take (stop - first).toNat

def substrText (s : String) (pos len : Int) : String :=
  String.ofList (substrChars s.toList pos len)

/-- The length that is taken where none is given. -/
def openLength : Int := 0x7FFFFFFF

/-! ## Digests -/

def digestText (s : String) (bits : Int) : Except ExprError String :=
  let bytes := s.toUTF8.toList
  if bits = 0 ∨ bits = 256 then .ok (Digest.hexBytes (Digest.sha256 bytes))
  else if bits = 224 then .ok (Digest.hexBytes (Digest.sha224 bytes))
  else if bits = 384 then .ok (Digest.hexBytes (Digest.sha384 bytes))
  else if bits = 512 then .ok (Digest.hexBytes (Digest.sha512 bytes))
  else .error (.typeMismatch (.digestBits bits))

/-- The text of a group of the first match. -/
def extractText (p : Pattern) (s : String) (group : Int) : Except ExprError String :=
  if group < 0 ∨ group > p.groups then
    .error (.typeMismatch (.groupOutOfRange group p.groups))
  else .ok (p.extract s group.toNat)

/-! ## Evaluation -/

/-- Goes on with what is there; null stays null. -/
def orNull {α : Type} (a : Option α) (f : α → Except ExprError Value) : Except ExprError Value :=
  match a with
  | some a => f a
  | none => .ok .null

mutual

def eval (r : Record) : Expr → Except ExprError Value
  | column name =>
    match r.get? name with
    | some v => .ok v
    | none => .error (.missingColumn name)
  | literal v => .ok v
  | castText e => do
    let v ← eval r e
    return match v.text? with
      | some s => .string s
      | none => .null
  | concat args => do
    return match ← concatText r args with
      | some s => .string s
      | none => .null
  | substrFrom subject pos => do
    orNull (← eval r subject).text? fun s => do
      orNull (← integerOf (← eval r pos)) fun p => return .string (substrText s p openLength)
  | substr subject pos len => do
    orNull (← eval r subject).text? fun s => do
      orNull (← integerOf (← eval r pos)) fun p => do
        orNull (← integerOf (← eval r len)) fun n => return .string (substrText s p n)
  | regexpReplace subject pattern replacement => do
    orNull (← eval r subject).text? fun s => do
      orNull (← eval r replacement).text? fun t => return .string (pattern.replaceAll s t)
  | regexpExtract subject pattern group => do
    orNull (← eval r subject).text? fun s => do
      orNull (← integerOf (← eval r group)) fun g => do
        return .string (← extractText pattern s g)
  | upper e => do
    orNull (← eval r e).text? fun s => return .string (Text.upper s)
  | lower e => do
    orNull (← eval r e).text? fun s => return .string (Text.lower s)
  | sha2 subject bits => do
    orNull (← eval r subject).text? fun s => do
      orNull (← integerOf (← eval r bits)) fun b => return .string (← digestText s b)

/-- The texts of the arguments one after the other; none as soon as one is null. -/
def concatText (r : Record) : List Expr → Except ExprError (Option String)
  | [] => .ok (some "")
  | e :: rest => do
    match (← eval r e).text? with
    | none => return none
    | some s => return (← concatText r rest).map (s ++ ·)

end

end Expr

/-- Whether a record passes; a subject that is null does. -/
def Predicate.holds (p : Predicate) (r : Record) : Except ExprError Bool := do
  match (← p.subject.eval r).text? with
  | none => return true
  | some s => return p.pattern.isMatch s != p.negated

/-- The new value of the target, which the record has. -/
def Redaction.evaluate (red : Redaction) (r : Record) : Except ExprError Value :=
  if r.contains red.target then red.expr.eval r else .error (.missingColumn red.target)

end Quarantine
