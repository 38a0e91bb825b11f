import Quarantine.Pattern.Reader

/-!
# Escapes

What may follow a backslash: an escaped punctuation mark, a control character by letter, a
character by its number, a look, or a class.  Escapes mean the same inside a class, where a
look is refused.
-/

namespace Quarantine.Pattern

open Quarantine.Text Reader

inductive Escape where
  /-- A character; `byte` says that it was written as `\x` and two digits. -/
  | char (c : Char) (byte : Bool)
  | look (l : Look)
  | set (s : CharSet)

/-- The largest count that may be written. -/
def maxCount : Nat := 0xFFFFFFFF

def hexValue? (c : Char) : Option Nat :=
  if c.isDigit then some (c.toNat - 48)
  else if 'a' ≤ c ∧ c ≤ 'f' then some (c.toNat - 87)
  else if 'A' ≤ c ∧ c ≤ 'F' then some (c.toNat - 55)
  else none

/-- The character of a code point; surrogates are none. -/
def charOf? (n : Nat) : Option Char :=
  if h : n.isValidChar then some (Char.ofNatAux n h) else none

/-- As many base-sixteen digits as asked for, with space between them where it is allowed. -/
def hexDigits : (count : Nat) → (value : Nat) → Reader Nat
  | 0, value => return value
  | n + 1, value => do
    let d ← ofOption (hexValue? (← takeSpaced))
    hexDigits n (value * 16 + d)

/-- Base-sixteen digits up to a closing brace; at least one. -/
def bracedHex : (fuel : Nat) → (value? : Option Nat) → Reader Nat
  | 0, _ => refuse
  | fuel + 1, value? => do
    let c ← takeSpaced
    if c == '\x7d' then ofOption value?
    else
      let d ← ofOption (hexValue? c)
      bracedHex fuel (some ((value?.getD 0) * 16 + d))

/-- A character by its number, the letter `x`, `u` or `U` being next. -/
def hexEscape : Reader Escape := do
  let letter ← takeSpaced
  if (← peek) == '\x7b' then
    let _ ← takeSpaced
    let n ← bracedHex ((← rest).length + 1) none
    return .char (← ofOption (charOf? n)) false
  else
    let count := if letter == 'x' then 2 else if letter == 'u' then 4 else 8
    let n ← hexDigits count 0
    return .char (← ofOption (charOf? n)) (letter == 'x')

/-- The name of a property up to a closing brace. -/
def bracedName : (fuel : Nat) → (name : List Char) → Reader (List Char)
  | 0, _ => refuse
  | fuel + 1, name => do
    let c ← take
    if c == '\x7d' then return name.reverse
    else
      skipSpace
      bracedName fuel (c :: name)

/-- A class by property, the letter `p` or `P` being next. -/
def propertyEscape : Reader Escape := do
  let negated := (← takeSpaced) == 'P'
  let first ← peek
  let name ←
    if first == '\x7b' then do
      let _ ← takeSpaced
      bracedName ((← rest).length + 1) []
    else if first == '\\' then refuse
    else do
      let _ ← takeSpaced
      pure [first]
  return .set (← ofOption ((← flags).property? negated name))

/-- The letters and hyphens of the name of a word look. -/
def edgeName : (fuel : Nat) → (name : List Char) → Reader (List Char)
  | 0, name => return name.reverse
  | fuel + 1, name => do
    match (← rest) with
    | [] => return name.reverse
    | c :: _ =>
      if c.isAlpha || c == '-' then
        let _ ← takeSpaced
        edgeName fuel (c :: name)
      else return name.reverse

/-- A word look after `\b`: with a name in braces, or the plain boundary.  Braces that do not
start like a name are left for a repetition to read. -/
def boundaryEscape : Reader Escape := do
  let ascii := !(← flags).unicode
  let plain := Escape.look (.word .boundary ascii)
  let start ← rest
  if start.head? != some '\x7b' then return plain
  let _ ← takeSpaced
  let c ← peek
  if !(c.isAlpha || c == '-') then
    goTo start
    return plain
  let name ← edgeName start.length []
  expect '\x7d'
  match String.ofList name with
  | "start" => return .look (.word .opening ascii)
  | "end" => return .look (.word .closing ascii)
  | "start-half" => return .look (.word .openingHalf ascii)
  | "end-half" => return .look (.word .closingHalf ascii)
  | _ => refuse

/-- An escape, the backslash being next. -/
def escape : Reader Escape := do
  let _ ← take
  let c ← peek
  if c == 'x' || c == 'u' || c == 'U' then hexEscape
  else if c == 'p' || c == 'P' then propertyEscape
  else
    let _ ← take
    let ascii := !(← flags).unicode
    match c with
    | 'd' | 's' | 'w' | 'D' | 'S' | 'W' => return .set (← ofOption ((← flags).perl? c))
    | 'a' => return .char '\x07' false
    | 'f' => return .char '\x0c' false
    | 't' => return .char '\t' false
    | 'n' => return .char '\n' false
    | 'r' => return .char '\r' false
    | 'v' => return .char '\x0b' false
    | 'A' => return .look .textStart
    | 'z' => return .look .textEnd
    | 'b' => boundaryEscape
    | 'B' => return .look (.word .inside ascii)
    | '<' => return .look (.word .opening ascii)
    | '>' => return .look (.word .closing ascii)
    | c => if c.toNat < 0x80 && !c.isAlphanum then return .char c false else refuse

/-- The set of a single character under the flags. -/
def Flags.char? (f : Flags) (c : Char) (byte : Bool) : Option CharSet :=
  if !f.unicode && byte && c.toNat > 0x7F then none
  else if !f.unicode && c.toNat > 0x7F then some (.singleton c)
  else some (f.fold (.singleton c))

end Quarantine.Pattern
