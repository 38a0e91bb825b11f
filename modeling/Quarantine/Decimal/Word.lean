/-!
# Words in digits

Numbers of 64 bits as names and arguments hold them: one ASCII digit or more, after a sign
perhaps.  A minus sign is for signed numbers only.
-/

namespace Quarantine.Decimal

/-- The number that ASCII digits write after another. -/
def digitsValue? (value : Nat) : List Char → Option Nat
  | [] => some value
  | c :: rest => if c.isDigit then digitsValue? (10 * value + (c.toNat - '0'.toNat)) rest else none

/-- The number that digits write, one digit at least. -/
def digits? (cs : List Char) : Option Nat := if cs.isEmpty then none else digitsValue? 0 cs

/-- A number below 2⁶⁴. -/
def unsigned? (cs : List Char) : Option Nat :=
  let digits := match cs with
    | '+' :: rest => rest
    | _ => cs
  (digits? digits).filter (· < 0x10000000000000000)

/-- A number from -2⁶³ to 2⁶³ - 1. -/
def signed? (cs : List Char) : Option Int :=
  let value : Option Int := match cs with
    | '-' :: rest => (digits? rest).map fun n => -(n : Int)
    | '+' :: rest => (digits? rest).map Int.ofNat
    | _ => (digits? cs).map Int.ofNat
  value.filter fun i => -0x8000000000000000 ≤ i ∧ i < 0x8000000000000000

end Quarantine.Decimal
