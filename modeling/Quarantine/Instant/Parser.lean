import Quarantine.Instant
import Quarantine.Text.Blank

/-!
# Reading instants

    instant  =  date ('T' | 't' | ' ') time zone
    date     =  [sign] year '-' month '-' day
    time     =  hour ':' minute ':' second ['.' digits]
    zone     =  'Z' | 'UTC' | sign hh [':'] mm

Blanks may stand around the parts.  A year without a sign has at most four digits, one with a
sign any number; the other parts have one or two.  Of a fraction nine digits count.  Second 60
is a leap second.
-/

namespace Quarantine.Instant

open Quarantine.Text

def skipBlanks (cs : List Char) : List Char := cs.dropWhile isBlank

def digitsValue (cs : List Char) : Nat := cs.foldl (fun n c => n * 10 + (c.toNat - 48)) 0

/-- A number of one to `most` digits, and the rest. -/
def readNumber (most : Option Nat) (cs : List Char) : Option (Nat × List Char) :=
  let all := cs.takeWhile Char.isDigit
  let digits := match most with
    | some n => all.take n
    | none => all
  if digits.isEmpty then none else some (digitsValue digits, cs.drop digits.length)

/-- A number of one or two digits after blanks. -/
def readShort (cs : List Char) : Option (Nat × List Char) := readNumber (some 2) (skipBlanks cs)

/-- A mark after blanks. -/
def readMark (c : Char) (cs : List Char) : Option (List Char) :=
  match skipBlanks cs with
  | d :: rest => if d = c then some rest else none
  | [] => none

def readYear (cs : List Char) : Option (Int × List Char) :=
  match skipBlanks cs with
  | '-' :: rest => (readNumber none rest).map fun (n, r) => (-(n : Int), r)
  | '+' :: rest => (readNumber none rest).map fun (n, r) => (n, r)
  | cs => (readNumber (some 4) cs).map fun (n, r) => (n, r)

def readDate (cs : List Char) : Option (Civil × List Char) := do
  let (year, cs) ← readYear cs
  let (month, cs) ← readShort (← readMark '-' cs)
  let (day, cs) ← readShort (← readMark '-' cs)
  let c : Civil := ⟨year, month, day⟩
  if c.isValid then some (c, cs) else none

/-- Digits of a fraction of a second, of which nine count, as nanoseconds. -/
def readFraction (cs : List Char) : Option (Nat × List Char) :=
  match cs with
  | '.' :: rest =>
    let digits := rest.takeWhile Char.isDigit
    let kept := digits.take 9
    if kept.isEmpty then none
    else some (digitsValue kept * Nat.pow 10 (9 - kept.length), rest.drop digits.length)
  | cs => some (0, cs)

/-- The second of the day and the nanoseconds. -/
def readTime (cs : List Char) : Option (Nat × Nat × List Char) := do
  let (hour, cs) ← readShort cs
  let (minute, cs) ← readShort (← readMark ':' cs)
  let (second, cs) ← readShort (← readMark ':' cs)
  let (nanos, cs) ← readFraction cs
  if hour < 24 ∧ minute < 60 ∧ second ≤ 60 then
    let whole := hour * 3600 + minute * 60
    if second = 60 then some (whole + 59, nanos + nanosPerSecond, skipBlanks cs)
    else some (whole + second, nanos, skipBlanks cs)
  else none

/-- How far local time is ahead, in seconds, and the rest. -/
def readZone (cs : List Char) : Option (Int × List Char) :=
  match cs with
  | c :: rest =>
    if c = 'z' ∨ c = 'Z' then some (0, rest)
    else if c.toLower = 'u' then
      match rest with
      | t :: u :: rest => if t.toLower = 't' ∧ u.toLower = 'c' then some (0, rest) else none
      | _ => none
    else if c = '+' ∨ c = '-' ∨ c = '\u2212' then
      match rest with
      | a :: b :: rest =>
        match rest.dropWhile fun c => c == ':' || isBlank c with
        | m :: n :: rest =>
          if a.isDigit && b.isDigit && m.isDigit && n.isDigit && m.toNat < '6'.toNat then
            let ahead : Int := (digitsValue [a, b] * 3600 + digitsValue [m, n] * 60 : Nat)
            if ahead < secondsPerDay then some (if c = '+' then ahead else -ahead, rest) else none
          else none
        | _ => none
      | _ => none
    else none
  | [] => none

def parseChars? (cs : List Char) : Option Instant := do
  let (date, cs) ← readDate cs
  let cs ←
    match cs with
    | c :: rest => if c = 't' ∨ c = 'T' ∨ c = ' ' then some rest else none
    | [] => none
  let (second, nanos, cs) ← readTime cs
  let (ahead, cs) ← readZone cs
  if !(skipBlanks cs).isEmpty then none
  else of? (daysFromCivil date * secondsPerDay + second - ahead) nanos

def parse? (text : String) : Option Instant := parseChars? text.toList

end Quarantine.Instant
