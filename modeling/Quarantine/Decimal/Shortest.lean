import Quarantine.Decimal.Binary64

/-!
# The shortest decimal of a number

The digits of a binary number are the fewest that read back as the same number, and of those
the nearest to it.  A decimal reads back when it lies between the midpoints to the two
neighbours; a midpoint itself does when the mantissa is even.

For each count of digits from one up, the two neighbours of the number on the decimal grid
are tried; if any point of the grid reads back, one of these does.
-/

namespace Quarantine.Decimal

/-- A decimal `0.d₁d₂… · 10 ^ point`, its digits without leading or trailing zeros. -/
structure Digits where
  digits : List Char
  point : Int
  deriving DecidableEq

namespace Shortest

/-- The number of decimal digits of a natural number. -/
def width (n : Nat) : Nat := (Nat.toDigits 10 n).length

/-- The exponent `k` with `10 ^ (k - 1) ≤ num / den < 10 ^ k`. -/
def pointOf (num den : Nat) : Int :=
  if den ≤ num then width (num / den)
  else
    let up := (den + num - 1) / num
    1 - (width (up - 1) : Int)

/-- The quotient `num / den` and the interval around it that reads back as it, in quarters of
the last place. -/
structure Span where
  low : Nat
  value : Nat
  high : Nat
  den : Nat
  closed : Bool

def spanOf (x : Binary64) : Span :=
  let low := if x.mantissa = Binary64.leastFull ∧ x.exponent > Binary64.leastExponent then 1 else 2
  let m := 4 * x.mantissa
  let e := x.exponent - 2
  let even := x.mantissa % 2 == 0
  if e < 0 then ⟨m - low, m, m + 2, Nat.pow 2 (-e).toNat, even⟩
  else
    let u := Nat.pow 2 e.toNat
    ⟨(m - low) * u, m * u, (m + 2) * u, 1, even⟩

/-- Whether `n · 10 ^ g` lies in the interval. -/
def Span.covers (s : Span) (n : Nat) (g : Int) : Bool :=
  let (a, b) := if g < 0 then (n * s.den, Nat.pow 10 (-g).toNat)
    else (n * Nat.pow 10 g.toNat * s.den, 1)
  if s.closed then s.low * b ≤ a ∧ a ≤ s.high * b else s.low * b < a ∧ a < s.high * b

/-- The best point of the grid of `10 ^ g`, if one reads back. -/
def Span.pick? (s : Span) (g : Int) : Option Nat :=
  let (num, den) :=
    if g < 0 then (s.value * Nat.pow 10 (-g).toNat, s.den)
    else (s.value, s.den * Nat.pow 10 g.toNat)
  let q := num / den
  let r := 2 * (num % den)
  match s.covers q g, s.covers (q + 1) g with
  | true, true => some (if r < den ∨ (r = den ∧ q % 2 = 0) then q else q + 1)
  | true, false => some q
  | false, true => some (q + 1)
  | false, false => none

/-- The first grid with a point that reads back, from `n` digits on. -/
def search (s : Span) (point : Int) : (more n : Nat) → Option (Nat × Int)
  | 0, _ => none
  | more + 1, n =>
    let g := point - n
    match s.pick? g with
    | some q => some (q, g)
    | none => search s point more (n + 1)

/-- Seventeen digits always suffice. -/
def enough : Nat := 17

end Shortest

/-- The shortest digits of a number that is not zero. -/
def Binary64.shortest (x : Binary64) : Digits :=
  let s := Shortest.spanOf x
  match Shortest.search s (Shortest.pointOf s.value s.den) Shortest.enough 1 with
  | some (q, g) =>
    let ds := Nat.toDigits 10 q
    let kept := (ds.reverse.dropWhile (· == '0')).reverse
    ⟨kept, g + ds.length⟩
  | none => ⟨[], 0⟩

end Quarantine.Decimal
