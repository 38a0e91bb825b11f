/-!
# Binary floating point numbers of 64 bits

A finite number is a sign, a mantissa below 2⁵³ and an exponent of two.  Every number has one
such form: the mantissa is at least 2⁵² unless the exponent is the least.

    ratio? num den = the number nearest to num / den, of two the one with the even mantissa;
                     `none` beyond the largest
    mul? , div?    = the same of the exact product and quotient
-/

namespace Quarantine.Decimal

/-- The number `± mantissa · 2 ^ exponent`. -/
structure Binary64 where
  negative : Bool
  mantissa : Nat
  exponent : Int
  deriving DecidableEq, Inhabited

namespace Binary64

/-- The exponents of the smallest and of the largest numbers. -/
def leastExponent : Int := -1074
def greatestExponent : Int := 971

/-- The least mantissa of all 53 bits. -/
def leastFull : Nat := 0x10000000000000

def zero (negative : Bool) : Binary64 := ⟨negative, 0, leastExponent⟩

def isZero (x : Binary64) : Bool := x.mantissa == 0

def withSign (negative : Bool) (x : Binary64) : Binary64 := { x with negative }

/-- The quotient `num / den` to the nearest whole number, a half to the even neighbour. -/
def divNearest (num den : Nat) : Nat :=
  let q := num / den
  let twice := 2 * (num % den)
  if twice < den ∨ (twice = den ∧ q % 2 = 0) then q else q + 1

/-- `num / den` in units of `2 ^ e`, to the nearest. -/
def scaled (num den : Nat) (e : Int) : Nat :=
  if e < 0 then divNearest (num * Nat.pow 2 (-e).toNat) den
  else divNearest num (den * Nat.pow 2 e.toNat)

/-- The exponent at which `num / den` has a mantissa of 53 bits, no less than the least. -/
def exponentOf (num den : Nat) : Int :=
  let e : Int := (Nat.log2 num : Int) - Nat.log2 den - 52
  let small := if e < 0 then num * Nat.pow 2 (-e).toNat < den * leastFull
    else num < den * (leastFull * Nat.pow 2 e.toNat)
  max leastExponent (if small then e - 1 else e)

/-- The number nearest to `num / den`. -/
def ratio? (num den : Nat) : Option Binary64 :=
  if num = 0 then some (zero false)
  else
    let e := exponentOf num den
    let m := scaled num den e
    let (m, e) := if m = 2 * leastFull then (leastFull, e + 1) else (m, e)
    if e > greatestExponent then none else some ⟨false, m, e⟩

/-- The size of a number as a quotient. -/
def toRatio (x : Binary64) : Nat × Nat :=
  if x.exponent < 0 then (x.mantissa, Nat.pow 2 (-x.exponent).toNat)
  else (x.mantissa * Nat.pow 2 x.exponent.toNat, 1)

def mul? (x y : Binary64) : Option Binary64 :=
  let (a, b) := x.toRatio
  let (c, d) := y.toRatio
  (ratio? (a * c) (b * d)).map (withSign (x.negative != y.negative))

def div? (x y : Binary64) : Option Binary64 :=
  let (a, b) := x.toRatio
  let (c, d) := y.toRatio
  (ratio? (a * d) (b * c)).map (withSign (x.negative != y.negative))

/-- The number nearest to a power of ten. -/
def powerOfTen? (n : Nat) : Option Binary64 := ratio? (Nat.pow 10 n) 1

/-- The largest power of ten that is reached. -/
def greatestPower : Nat := 308

/-- Divides `n` times by the largest power. -/
def divGreatest? : (n : Nat) → Binary64 → Option Binary64
  | 0, x => some x
  | n + 1, x =>
    if x.isZero then some x else ((powerOfTen? greatestPower).bind x.div?).bind (divGreatest? n)

/-- `x / 10 ^ n` in steps of at most the largest power, each rounded on its own. -/
def divPower? (x : Binary64) (n : Nat) : Option Binary64 :=
  let steps := (n - 1) / greatestPower
  (divGreatest? steps x).bind fun y =>
    (powerOfTen? (n - steps * greatestPower)).bind y.div?

/-- `significand · 10 ^ exponent`, the significand rounded before the power is applied. -/
def ofScientific? (negative : Bool) (significand : Nat) (exponent : Int) : Option Binary64 :=
  (ratio? significand 1).bind fun x =>
    let y :=
      if exponent < 0 then x.divPower? (-exponent).toNat
      else if exponent.toNat ≤ greatestPower then (powerOfTen? exponent.toNat).bind x.mul?
      else if x.isZero then some x
      else none
    y.map (withSign negative)

end Binary64
end Quarantine.Decimal
