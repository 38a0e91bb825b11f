/-!
# Instants

An instant is a count of seconds since the start of 1970, and of nanoseconds after that.  A
leap second is told by a nanosecond count from 10⁹ on, and follows the last second of a minute.

    daysFromCivil (civilFromDays n) = n
-/

namespace Quarantine

/-! ## The calendar -/

/-- A day of the proleptic Gregorian calendar. -/
structure Civil where
  year : Int
  month : Nat
  day : Nat
  deriving DecidableEq

/-- The number of a day; the first of January 1970 is 0.  Years are counted from March on, so
that a leap day ends one. -/
def daysFromCivil (c : Civil) : Int :=
  let y := if c.month ≤ 2 then c.year - 1 else c.year
  let era := Int.fdiv y 400
  let yearOfEra := y - era * 400
  let month := if c.month > 2 then c.month - 3 else c.month + 9
  let dayOfYear : Int := (153 * month + 2) / 5 + c.day - 1
  let dayOfEra := yearOfEra * 365 + yearOfEra / 4 - yearOfEra / 100 + dayOfYear
  era * 146097 + dayOfEra - 719468

/-- The day with a number. -/
def civilFromDays (n : Int) : Civil :=
  let z := n + 719468
  let era := Int.fdiv z 146097
  let dayOfEra := z - era * 146097
  let yearOfEra := (dayOfEra - dayOfEra / 1460 + dayOfEra / 36524 - dayOfEra / 146096) / 365
  let dayOfYear := dayOfEra - (365 * yearOfEra + yearOfEra / 4 - yearOfEra / 100)
  let m := (5 * dayOfYear + 2) / 153
  let day := dayOfYear - (153 * m + 2) / 5 + 1
  let month := if m < 10 then m + 3 else m - 9
  let year := yearOfEra + era * 400 + (if month ≤ 2 then 1 else 0)
  ⟨year, month.toNat, day.toNat⟩

def isLeapYear (y : Int) : Bool := y % 4 == 0 && (y % 100 != 0 || y % 400 == 0)

def daysInMonth (year : Int) (month : Nat) : Nat :=
  if month = 2 then (if isLeapYear year then 29 else 28)
  else if month = 4 ∨ month = 6 ∨ month = 9 ∨ month = 11 then 30
  else 31

/-- The years that have instants. -/
def leastYear : Int := -262143
def greatestYear : Int := 262142

def Civil.isValid (c : Civil) : Bool :=
  leastYear ≤ c.year && c.year ≤ greatestYear && 1 ≤ c.month && c.month ≤ 12 && 1 ≤ c.day &&
    c.day ≤ daysInMonth c.year c.month

/-! ## Instants -/

def secondsPerDay : Nat := 86400

/-- The first and the last second that have instants: of the first of January of the least
year, and of the last of December of the greatest. -/
def leastSecond : Int := -8334601228800
def greatestSecond : Int := 8210266876799

def nanosPerSecond : Nat := 1000000000

structure Instant where
  seconds : Int
  nanos : Nat
  inRange : leastSecond ≤ seconds ∧ seconds ≤ greatestSecond
  nanos_lt : nanos < 2 * nanosPerSecond
  leap : nanosPerSecond ≤ nanos → seconds % 60 = 59
  deriving DecidableEq

namespace Instant

/-- The instant with the given counts, if there is one. -/
def of? (seconds : Int) (nanos : Nat) : Option Instant :=
  if h : (leastSecond ≤ seconds ∧ seconds ≤ greatestSecond) ∧ nanos < 2 * nanosPerSecond ∧
      (nanosPerSecond ≤ nanos → seconds % 60 = 59) then
    some ⟨seconds, nanos, h.1, h.2.1, h.2.2⟩
  else none

def epoch : Instant := ⟨0, 0, by decide, by decide, by decide⟩

instance : Inhabited Instant := ⟨epoch⟩

/-- Order in time. -/
def le (a b : Instant) : Bool :=
  a.seconds < b.seconds || (a.seconds == b.seconds && a.nanos ≤ b.nanos)

def lt (a b : Instant) : Bool := !le b a

/-! ## Fields -/

def civil (t : Instant) : Civil := civilFromDays (Int.fdiv t.seconds secondsPerDay)

/-- The second of the day; a leap second is the last of its minute here. -/
def secondOfDay (t : Instant) : Nat := (Int.fmod t.seconds secondsPerDay).toNat

/-! ## Written instants -/

/-- At least `width` decimal digits. -/
def padded (width n : Nat) : String :=
  let ds := toString n
  String.ofList (List.replicate (width - ds.length) '0') ++ ds

/-- A year: four digits, with a sign and more digits where these do not do. -/
def yearText (y : Int) : String :=
  if 0 ≤ y ∧ y ≤ 9999 then padded 4 y.toNat
  else (if y < 0 then "-" else "+") ++ padded 4 y.natAbs

def dateText (c : Civil) : String :=
  yearText c.year ++ "-" ++ padded 2 c.month ++ "-" ++ padded 2 c.day

/-- A fraction of a second in three, six or nine digits; nothing for none. -/
def fractionText (nanos : Nat) : String :=
  if nanos = 0 then ""
  else if nanos % 1000000 = 0 then "." ++ padded 3 (nanos / 1000000)
  else if nanos % 1000 = 0 then "." ++ padded 6 (nanos / 1000)
  else "." ++ padded 9 nanos

def timeText (t : Instant) : String :=
  let s := t.secondOfDay
  let leap := nanosPerSecond ≤ t.nanos
  padded 2 (s / 3600) ++ ":" ++ padded 2 (s / 60 % 60) ++ ":" ++
    padded 2 (s % 60 + if leap then 1 else 0) ++
    fractionText (if leap then t.nanos - nanosPerSecond else t.nanos)

/-- The form in data, as in `2024-05-01T12:00:00Z`. -/
def render (t : Instant) : String := dateText t.civil ++ "T" ++ t.timeText ++ "Z"

/-- The form in messages, as in `2024-05-01 12:00:00 UTC`. -/
def display (t : Instant) : String := dateText t.civil ++ " " ++ t.timeText ++ " UTC"

end Instant
end Quarantine
