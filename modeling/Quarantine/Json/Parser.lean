import Quarantine.Json.Printer

/-!
# Reading JSON

    read? text  = the value that a text writes, with fields as they stand in the text
    merged v    = v with each field once: in its first place, with its last value
    parse? text = (read? text).map merged

Arrays and objects nest to a limited depth.  A number that is whole and has a place is kept
as it is, every other as a binary number; one beyond the largest is refused.
-/

namespace Quarantine.Json

open Quarantine.Decimal

/-- How deep arrays and objects may nest. -/
def maxDepth : Nat := 127

def isSpace (c : Char) : Bool := c == ' ' || c == '\n' || c == '\t' || c == '\r'

def skipSpace (cs : List Char) : List Char := cs.dropWhile isSpace

/-! ## Strings -/

def hexValue? (c : Char) : Option Nat :=
  if c.isDigit then some (c.toNat - 48)
  else if 'a' ≤ c ∧ c ≤ 'f' then some (c.toNat - 87)
  else if 'A' ≤ c ∧ c ≤ 'F' then some (c.toNat - 55)
  else none

def hex4? (a b c d : Char) : Option Nat := do
  return (((← hexValue? a) * 16 + (← hexValue? b)) * 16 + (← hexValue? c)) * 16 + (← hexValue? d)

/-- The character of a code point; surrogates are none. -/
def charOf? (n : Nat) : Option Char :=
  if h : n.isValidChar then some (Char.ofNatAux n h) else none

/-- The character of two surrogates, the first high and the second low. -/
def surrogatePair? (high low : Nat) : Option Char :=
  if 0xD800 ≤ high ∧ high < 0xDC00 ∧ 0xDC00 ≤ low ∧ low < 0xE000 then
    charOf? (0x10000 + (high - 0xD800) * 0x400 + (low - 0xDC00))
  else none

/-- The character of an escape by letter. -/
def letterEscape? : Char → Option Char
  | '"' => some '"'
  | '\\' => some '\\'
  | '/' => some '/'
  | 'b' => some '\x08'
  | 'f' => some '\x0c'
  | 'n' => some '\n'
  | 'r' => some '\r'
  | 't' => some '\t'
  | _ => none

/-- The characters of a string up to its closing quote, and the rest. -/
def readString : List Char → Option (List Char × List Char)
  | [] => none
  | '"' :: rest => some ([], rest)
  | '\\' :: 'u' :: a :: b :: c :: d :: rest =>
    match hex4? a b c d with
    | none => none
    | some n =>
      match charOf? n with
      | some ch => (readString rest).map fun (s, r) => (ch :: s, r)
      | none =>
        match rest with
        | '\\' :: 'u' :: e :: f :: g :: h :: rest =>
          match (hex4? e f g h).bind (surrogatePair? n) with
          | some ch => (readString rest).map fun (s, r) => (ch :: s, r)
          | none => none
        | _ => none
  | '\\' :: c :: rest =>
    match letterEscape? c with
    | some ch => (readString rest).map fun (s, r) => (ch :: s, r)
    | none => none
  | c :: rest =>
    if c.toNat < 0x20 ∨ c = '\\' then none
    else (readString rest).map fun (s, r) => (c :: s, r)

/-! ## Numbers -/

def digitsValue (cs : List Char) : Nat := cs.foldl (fun n c => n * 10 + (c.toNat - 48)) 0

/-- Takes digits into a significand as long as it stays below 2⁶⁴; gives it and how many. -/
def absorb (significand : Nat) : List Char → Nat × Nat
  | [] => (significand, 0)
  | c :: cs =>
    let next := significand * 10 + (c.toNat - 48)
    if next < 0x10000000000000000 then
      let (s, n) := absorb next cs
      (s, n + 1)
    else (significand, 0)

/-- The largest exponent that is taken as written. -/
def maxExponent : Nat := 0x7FFFFFFF

/-- The parts of a written number; `fraction` and `exponent` where they are written. -/
structure NumberText where
  negative : Bool
  whole : List Char
  fraction : Option (List Char)
  exponent : Option (Bool × List Char)

/-- The number that the parts write.  Digits beyond a significand of 64 bits do not count. -/
def NumberText.toNumber? (t : NumberText) : Option Number :=
  let n := digitsValue t.whole
  match t.fraction, t.exponent with
  | none, none =>
    if n < 0x10000000000000000 ∧ ¬t.negative then Number.ofInt? n
    else if t.negative ∧ 0 < n ∧ n ≤ 0x8000000000000000 then Number.ofInt? (-n)
    else (inexact t).map .binary
  | _, _ => (inexact t).map .binary
where
  inexact (t : NumberText) : Option Binary64 :=
    let (s, taken) := absorb 0 t.whole
    let (s, places) := absorb s (t.fraction.getD [])
    let point : Int := (t.whole.length - taken : Nat) - (places : Int)
    match t.exponent with
    | none => Binary64.ofScientific? t.negative s point
    | some (down, digits) =>
      let e := digitsValue digits
      if e > maxExponent then
        if s = 0 ∨ down then some (Binary64.zero t.negative) else none
      else Binary64.ofScientific? t.negative s (if down then point - e else point + e)

/-- A written number, and the rest.  A zero in front stands alone; a point and an exponent have
digits. -/
def scanNumber (cs : List Char) : Option (NumberText × List Char) :=
  let negative := cs.head? == some '-'
  let cs := if negative then cs.drop 1 else cs
  let whole := cs.takeWhile Char.isDigit
  let cs := cs.dropWhile Char.isDigit
  if whole.isEmpty || (whole.head? == some '0' && whole.length > 1) then none
  else
    let fraction := if cs.head? == some '.' then some ((cs.drop 1).takeWhile Char.isDigit) else none
    let cs := if fraction.isSome then (cs.drop 1).dropWhile Char.isDigit else cs
    let hasExponent := cs.head? == some 'e' || cs.head? == some 'E'
    let tail := if hasExponent then cs.drop 1 else cs
    let signed := hasExponent && (tail.head? == some '+' || tail.head? == some '-')
    let down := signed && tail.head? == some '-'
    let tail := if signed then tail.drop 1 else tail
    let digits := tail.takeWhile Char.isDigit
    let rest := if hasExponent then tail.dropWhile Char.isDigit else cs
    if fraction.any List.isEmpty || (hasExponent && digits.isEmpty) then none
    else some (⟨negative, whole, fraction, if hasExponent then some (down, digits) else none⟩, rest)

def readNumber (cs : List Char) : Option (Number × List Char) := do
  let (text, rest) ← scanNumber cs
  return (← text.toNumber?, rest)

/-! ## Values -/

mutual

/-- A value after any space; `depth` levels of nesting are left. -/
def readValue (fuel depth : Nat) (cs : List Char) : Option (Value × List Char) :=
  match fuel with
  | 0 => none
  | fuel + 1 =>
    match skipSpace cs with
    | 'n' :: 'u' :: 'l' :: 'l' :: rest => some (.null, rest)
    | 't' :: 'r' :: 'u' :: 'e' :: rest => some (.bool true, rest)
    | 'f' :: 'a' :: 'l' :: 's' :: 'e' :: rest => some (.bool false, rest)
    | '"' :: rest => (readString rest).map fun (s, r) => (.string (String.ofList s), r)
    | '[' :: rest =>
      match depth with
      | 0 => none
      | depth + 1 =>
        match skipSpace rest with
        | ']' :: rest => some (.array [], rest)
        | rest => (readItems fuel depth rest).map fun (items, r) => (.array items, r)
    | '\x7b' :: rest =>
      match depth with
      | 0 => none
      | depth + 1 =>
        match skipSpace rest with
        | '\x7d' :: rest => some (.object [], rest)
        | rest => (readFields fuel depth rest).map fun (fields, r) => (.object fields, r)
    | c :: rest =>
      if c == '-' || c.isDigit then (readNumber (c :: rest)).map fun (n, r) => (.number n, r)
      else none
    | [] => none

/-- Items up to the closing bracket; at least one. -/
def readItems (fuel depth : Nat) (cs : List Char) : Option (List Value × List Char) :=
  match fuel with
  | 0 => none
  | fuel + 1 =>
    match readValue fuel depth cs with
    | none => none
    | some (v, rest) =>
      match skipSpace rest with
      | ']' :: rest => some ([v], rest)
      | ',' :: rest => (readItems fuel depth rest).map fun (items, r) => (v :: items, r)
      | _ => none

/-- Fields up to the closing brace; at least one. -/
def readFields (fuel depth : Nat) (cs : List Char) :
    Option (List (String × Value) × List Char) :=
  match fuel with
  | 0 => none
  | fuel + 1 =>
    match skipSpace cs with
    | '"' :: rest =>
      match readString rest with
      | none => none
      | some (name, rest) =>
        match skipSpace rest with
        | ':' :: rest =>
          match readValue fuel depth rest with
          | none => none
          | some (v, rest) =>
            match skipSpace rest with
            | '\x7d' :: rest => some ([(String.ofList name, v)], rest)
            | ',' :: rest =>
              (readFields fuel depth rest).map fun (fs, r) => ((String.ofList name, v) :: fs, r)
            | _ => none
        | _ => none
    | _ => none

end

/-- The value that a text writes, with fields as they stand in the text. -/
def read? (text : String) : Option Value :=
  let cs := text.toList
  match readValue (2 * cs.length + 2) maxDepth cs with
  | some (v, rest) => if (skipSpace rest).isEmpty then some v else none
  | none => none

mutual

/-- Each field once, at every level: in its first place, with its last value. -/
def Value.merged : Value → Value
  | .array items => .array (mergedItems items)
  | .object fields => .object (mergedFields fields [])
  | v => v

def mergedItems : List Value → List Value
  | [] => []
  | v :: rest => v.merged :: mergedItems rest

def mergedFields : List (String × Value) → Fields → Fields
  | [], done => done
  | (name, v) :: rest, done => mergedFields rest (Fields.put done name v.merged)

end

def parse? (text : String) : Option Value := (read? text).map Value.merged

end Quarantine.Json
