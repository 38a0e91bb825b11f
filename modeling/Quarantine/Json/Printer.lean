import Quarantine.Json.Value

/-!
# Written JSON

The compact form has no spaces; the indented form puts each item on a line of its own.  A
string escapes quotes, backslashes and the characters below the space, and nothing else.  A
binary number is written with its shortest digits and always with a point or an exponent.

    render v = the compact form of v
-/

namespace Quarantine.Json

open Quarantine.Decimal

/-! ## Strings -/

/-- A digit in base sixteen, lower case. -/
def hexDigit (n : Nat) : Char := Nat.digitChar n

def escapeChar (c : Char) : List Char :=
  if c = '"' then ['\\', '"']
  else if c = '\\' then ['\\', '\\']
  else if c = '\n' then ['\\', 'n']
  else if c = '\r' then ['\\', 'r']
  else if c = '\t' then ['\\', 't']
  else if c = '\x08' then ['\\', 'b']
  else if c = '\x0c' then ['\\', 'f']
  else if c.toNat < 0x20 then
    ['\\', 'u', '0', '0', hexDigit (c.toNat / 16), hexDigit (c.toNat % 16)]
  else [c]

def quotedChars (s : String) : List Char :=
  '"' :: (s.toList.flatMap escapeChar ++ ['"'])

/-! ## Numbers -/

/-- The exponents, of the form with one digit before the point, that are written with a point. -/
def leastPointed : Int := -5
def greatestPointed : Int := 15

/-- Digits with a decimal point, or with an exponent of ten. -/
def decimalChars (d : Digits) : List Char :=
  let exponent := d.point - 1
  let n := d.digits.length
  if leastPointed ≤ exponent ∧ exponent ≤ greatestPointed then
    if d.point ≤ 0 then '0' :: '.' :: (List.replicate (-d.point).toNat '0' ++ d.digits)
    else
      let whole := d.point.toNat
      if n ≤ whole then d.digits ++ List.replicate (whole - n) '0' ++ ['.', '0']
      else d.digits.take whole ++ '.' :: d.digits.drop whole
  else
    let fraction := if n > 1 then '.' :: d.digits.drop 1 else []
    let sign := if exponent < 0 then '-' else '+'
    d.digits.take 1 ++ fraction ++ 'e' :: sign :: Nat.toDigits 10 exponent.natAbs

def binaryChars (x : Binary64) : List Char :=
  let digits := if x.isZero then ['0', '.', '0'] else decimalChars x.shortest
  if x.negative then '-' :: digits else digits

def Number.chars : Number → List Char
  | .natural n => Nat.toDigits 10 n.val
  | .negative n => '-' :: Nat.toDigits 10 (n.val + 1)
  | .binary x => binaryChars x

def Number.render (n : Number) : String := String.ofList n.chars

/-! ## The compact form -/

/-- Lists with a comma between them. -/
def commaed : List (List Char) → List Char
  | [] => []
  | [x] => x
  | x :: rest => x ++ ',' :: commaed rest

mutual

def Value.chars : Value → List Char
  | .null => ['n', 'u', 'l', 'l']
  | .bool true => ['t', 'r', 'u', 'e']
  | .bool false => ['f', 'a', 'l', 's', 'e']
  | .number n => n.chars
  | .string s => quotedChars s
  | .array items => '[' :: (commaed (itemChars items) ++ [']'])
  | .object fields => '\x7b' :: (commaed (fieldChars fields) ++ ['\x7d'])

def itemChars : List Value → List (List Char)
  | [] => []
  | v :: rest => v.chars :: itemChars rest

def fieldChars : List (String × Value) → List (List Char)
  | [] => []
  | (name, v) :: rest => (quotedChars name ++ ':' :: v.chars) :: fieldChars rest

end

def Value.render (v : Value) : String := String.ofList v.chars

/-- The text of a value: a string is its own text, null has none, and every other value has its
written form. -/
def Value.text? : Value → Option String
  | .null => none
  | .string s => some s
  | v => some v.render

/-! ## The indented form -/

/-- A new line with `depth` steps of two spaces. -/
def newLine (depth : Nat) : List Char := '\n' :: List.replicate (2 * depth) ' '

mutual

def Value.indented (depth : Nat) : Value → List Char
  | .array (v :: items) =>
    '[' :: (newLine (depth + 1) ++ Value.indented (depth + 1) v ++ indentedItems depth items ++
      newLine depth ++ [']'])
  | .object ((name, v) :: fields) =>
    '\x7b' :: (newLine (depth + 1) ++ quotedChars name ++ ':' :: ' ' ::
      Value.indented (depth + 1) v ++ indentedFields depth fields ++ newLine depth ++ ['\x7d'])
  | .array [] => ['[', ']']
  | .object [] => ['\x7b', '\x7d']
  | .null => ['n', 'u', 'l', 'l']
  | .bool true => ['t', 'r', 'u', 'e']
  | .bool false => ['f', 'a', 'l', 's', 'e']
  | .number n => n.chars
  | .string s => quotedChars s

def indentedItems (depth : Nat) : List Value → List Char
  | [] => []
  | v :: rest =>
    ',' :: (newLine (depth + 1) ++ Value.indented (depth + 1) v ++ indentedItems depth rest)

def indentedFields (depth : Nat) : List (String × Value) → List Char
  | [] => []
  | (name, v) :: rest =>
    ',' :: (newLine (depth + 1) ++ quotedChars name ++ ':' :: ' ' ::
      Value.indented (depth + 1) v ++ indentedFields depth rest)

end

/-- The indented form, two spaces to a level. -/
def Value.renderIndented (v : Value) : String := String.ofList (v.indented 0)

end Quarantine.Json
