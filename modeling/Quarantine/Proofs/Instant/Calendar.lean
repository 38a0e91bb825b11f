import Quarantine.Instant

/-!
# The calendar is inverted

A day is told by the era of 400 years that it is in, the year of the era and the day of the
year, years being counted from March on.  Within an era,

    day of era = 365 · year + year / 4 - year / 100 + day of year

with the day of the year at most 365, and 365 in leap years only.

## Top theorems

- `daysFromCivil_civilFromDays`
- `isValid_civil`  the date of an instant is one
-/

namespace Quarantine

/-! ## Years of an era -/

/-- The year of an era that a day of it is in. -/
def yearOfEra (doe : Int) : Int := (doe - doe / 1460 + doe / 36524 - doe / 146096) / 365

/-- The day of the year that is told by the day of the era. -/
def dayOfYear (doe : Int) : Int :=
  doe - (365 * yearOfEra doe + yearOfEra doe / 4 - yearOfEra doe / 100)

/-- Centuries of days and of years go together. -/
theorem century_cases {doe year : Int} (h0 : 0 ≤ doe) (h1 : doe < 146097)
    (hy : year = (doe - doe / 1460 + doe / 36524 - doe / 146096) / 365) :
    ∃ c e : Int, doe / 36524 = c ∧ doe / 146096 = e ∧
      ((c = 0 ∧ e = 0 ∧ year / 100 = 0) ∨ (c = 1 ∧ e = 0 ∧ year / 100 = 1) ∨
        (c = 2 ∧ e = 0 ∧ year / 100 = 2) ∨ (c = 3 ∧ e = 0 ∧ year / 100 = 3) ∨
        (c = 4 ∧ e = 1 ∧ year / 100 = 3)) := by
  refine ⟨_, _, rfl, rfl, ?_⟩
  have hc : doe / 36524 = 0 ∨ doe / 36524 = 1 ∨ doe / 36524 = 2 ∨ doe / 36524 = 3 ∨
      doe / 36524 = 4 := by omega
  rcases hc with hc | hc | hc | hc | hc <;> omega

theorem dayOfYear_bounds {doe : Int} (h0 : 0 ≤ doe) (h1 : doe < 146097) :
    0 ≤ dayOfYear doe ∧ dayOfYear doe ≤ 365 ∧
      (dayOfYear doe = 365 → (yearOfEra doe + 1) % 4 = 0 ∧
        ((yearOfEra doe + 1) % 100 ≠ 0 ∨ (yearOfEra doe + 1) % 400 = 0)) := by
  unfold dayOfYear
  generalize hy : yearOfEra doe = year
  have hy : year = (doe - doe / 1460 + doe / 36524 - doe / 146096) / 365 := hy.symm
  obtain ⟨c, e, hc, he, h⟩ := century_cases h0 h1 hy
  rw [hc, he] at hy
  have hj : year % 4 = 0 ∨ year % 4 = 1 ∨ year % 4 = 2 ∨ year % 4 = 3 := by omega
  rcases h with ⟨rfl, rfl, hk⟩ | ⟨rfl, rfl, hk⟩ | ⟨rfl, rfl, hk⟩ | ⟨rfl, rfl, hk⟩ | ⟨rfl, rfl, hk⟩ <;>
    rcases hj with hj | hj | hj | hj <;> omega

theorem yearOfEra_bounds {doe : Int} (h0 : 0 ≤ doe) (h1 : doe < 146097) :
    0 ≤ yearOfEra doe ∧ yearOfEra doe < 400 := by
  unfold yearOfEra
  constructor <;> omega

/-! ## Days and dates -/

/-- A date by its era, the year of that and the day of the year, with months from March on. -/
structure Dated (n : Int) (era year day month : Int) : Prop where
  days : n + 719468 = era * 146097 + (365 * year + year / 4 - year / 100 + day)
  year_nonneg : 0 ≤ year
  year_lt : year < 400
  day_nonneg : 0 ≤ day
  day_le : day ≤ 365
  leap : day = 365 → (year + 1) % 4 = 0 ∧ ((year + 1) % 100 ≠ 0 ∨ (year + 1) % 400 = 0)
  month_eq : month = (5 * day + 2) / 153
  civil : civilFromDays n =
    ⟨year + era * 400 + (if month < 10 then 0 else 1),
      (if month < 10 then month + 3 else month - 9).toNat,
      (day - (153 * month + 2) / 5 + 1).toNat⟩

theorem exists_dated (n : Int) : ∃ era year day month, Dated n era year day month := by
  have hz : Int.fdiv (n + 719468) 146097 = (n + 719468) / 146097 :=
    Int.fdiv_eq_ediv_of_nonneg _ (by decide)
  generalize hera : (n + 719468) / 146097 = era at hz
  generalize hdoe : n + 719468 - era * 146097 = doe
  have h0 : 0 ≤ doe := by omega
  have h1 : doe < 146097 := by omega
  obtain ⟨hy0, hy1⟩ := yearOfEra_bounds h0 h1
  obtain ⟨hd0, hd1, hleap⟩ := dayOfYear_bounds h0 h1
  refine ⟨era, yearOfEra doe, dayOfYear doe, (5 * dayOfYear doe + 2) / 153, ?_, hy0, hy1, hd0,
    hd1, hleap, rfl, ?_⟩
  · unfold dayOfYear
    omega
  · have hd : doe - (365 * yearOfEra doe + yearOfEra doe / 4 - yearOfEra doe / 100) =
        dayOfYear doe := rfl
    have hy : (doe - doe / 1460 + doe / 36524 - doe / 146096) / 365 = yearOfEra doe := rfl
    simp only [civilFromDays, hz, hdoe, hy, hd]
    congr 1
    split <;> split <;> omega

/-- A day that is written as a date is that day. -/
theorem daysFromCivil_civilFromDays (n : Int) : daysFromCivil (civilFromDays n) = n := by
  obtain ⟨era, year, day, month, h⟩ := exists_dated n
  obtain ⟨hdays, hy0, hy1, hd0, hd1, -, hm, hc⟩ := h
  have hera : Int.fdiv (year + era * 400) 400 = era := by
    rw [Int.fdiv_eq_ediv_of_nonneg _ (by decide)]
    omega
  rw [hc, daysFromCivil]
  by_cases hlt : month < 10
  · have hle : ¬ (month + 3).toNat ≤ 2 := by omega
    have hgt : (month + 3).toNat > 2 := by omega
    simp only [if_pos hlt, if_neg hle, if_pos hgt, Int.add_zero, hera]
    omega
  · have hle : (month - 9).toNat ≤ 2 := by omega
    have hgt : ¬ (month - 9).toNat > 2 := by omega
    have hyear : year + era * 400 + 1 - 1 = year + era * 400 := by omega
    simp only [if_neg hlt, if_pos hle, if_neg hgt, hyear, hera]
    omega

theorem isLeapYear_of_mod {y : Int} (h4 : y % 4 = 0) (h : y % 100 ≠ 0 ∨ y % 400 = 0) :
    isLeapYear y = true := by
  simp only [isLeapYear, Bool.and_eq_true, Bool.or_eq_true, beq_iff_eq, bne_iff_ne]
  exact ⟨h4, h⟩

/-- The first and the last day that have instants. -/
def leastDay : Int := -96465292
def greatestDay : Int := 95026236

namespace Dated

variable {n era year day month : Int}

theorem leastYear_le (h : Dated n era year day month) (hn : leastDay ≤ n) :
    leastYear ≤ year + era * 400 + (if month < 10 then 0 else 1) := by
  obtain ⟨hdays, hy0, hy1, hd0, hd1, -, hm, -⟩ := h
  unfold leastDay at hn
  unfold leastYear
  have hera : -656 ≤ era := by omega
  by_cases he : era = -656
  · subst he
    have hyear : 256 ≤ year := by omega
    by_cases hy : year = 256
    · have hday : 306 ≤ day := by omega
      split <;> omega
    · split <;> omega
  · split <;> omega

theorem le_greatestYear (h : Dated n era year day month) (hn : n ≤ greatestDay) :
    year + era * 400 + (if month < 10 then 0 else 1) ≤ greatestYear := by
  obtain ⟨hdays, hy0, hy1, hd0, hd1, -, hm, -⟩ := h
  unfold greatestDay at hn
  unfold greatestYear
  have hera : era ≤ 655 := by omega
  by_cases he : era = 655
  · subst he
    have hyear : year ≤ 142 := by omega
    by_cases hy : year = 142
    · have hday : day ≤ 305 := by omega
      split <;> omega
    · split <;> omega
  · split <;> omega

theorem day_le_daysInMonth (h : Dated n era year day month) :
    (day - (153 * month + 2) / 5 + 1).toNat ≤
      daysInMonth (year + era * 400 + (if month < 10 then 0 else 1))
        (if month < 10 then month + 3 else month - 9).toNat := by
  obtain ⟨-, -, -, hd0, hd1, hleap, hm, -⟩ := h
  generalize hk : (if month < 10 then month + 3 else month - 9).toNat = k
  have hk : (month < 10 ∧ (k : Int) = month + 3) ∨ (10 ≤ month ∧ (k : Int) = month - 9) := by
    split at hk <;> omega
  unfold daysInMonth
  by_cases hfeb : k = 2
  · have hmonth : month = 11 := by omega
    subst hmonth
    rw [if_pos hfeb, if_neg (by decide : ¬ (11 : Int) < 10)]
    by_cases hday : day = 365
    · obtain ⟨h4, h100⟩ := hleap hday
      have hl : isLeapYear (year + era * 400 + 1) = true :=
        isLeapYear_of_mod (by omega) (by omega)
      rw [if_pos hl]
      omega
    · split <;> omega
  · rw [if_neg hfeb]
    by_cases hshort : k = 4 ∨ k = 6 ∨ k = 9 ∨ k = 11
    · rw [if_pos hshort]
      have hcases : month = 1 ∨ month = 3 ∨ month = 6 ∨ month = 8 := by omega
      rcases hcases with rfl | rfl | rfl | rfl <;> omega
    · rw [if_neg hshort]
      omega

end Dated

theorem isValid_civilFromDays {n : Int} (h0 : leastDay ≤ n) (h1 : n ≤ greatestDay) :
    (civilFromDays n).isValid = true := by
  obtain ⟨era, year, day, month, h⟩ := exists_dated n
  have hd0 := h.day_nonneg
  have hd1 := h.day_le
  have hm := h.month_eq
  rw [h.civil]
  simp only [Civil.isValid, Bool.and_eq_true, decide_eq_true_eq]
  refine ⟨⟨⟨⟨⟨h.leastYear_le h0, h.le_greatestYear h1⟩, ?_⟩, ?_⟩, ?_⟩, h.day_le_daysInMonth⟩
  · split <;> omega
  · split <;> omega
  · omega

/-- The date of an instant is a date. -/
theorem Instant.isValid_civil (t : Instant) : t.civil.isValid = true := by
  have hfd : Int.fdiv t.seconds secondsPerDay = t.seconds / 86400 :=
    Int.fdiv_eq_ediv_of_nonneg _ (by decide)
  have hr := t.inRange
  unfold leastSecond greatestSecond at hr
  rw [Instant.civil, hfd]
  refine isValid_civilFromDays ?_ ?_
  · unfold leastDay
    omega
  · unfold greatestDay
    omega

end Quarantine
