import Mathlib.Tactic.IntervalCases
import SolutionAlgebra.Calendar.Moment

/-! # Dates and days

Counting days and naming dates are inverse to each other: the date of a day exists, and it is as
many days away as it was made from. An era divides into centuries of 36524 days, these into spans
of four years of 1461 days, and these into years; the last century of an era and the last year of a
span have one day more than the others.

* **`exists_eraParts`** — the century, span and day of a day of an era.
* **`Civil.toDays_ofDays`** — the date of a day is that day.
* **`Civil.isValid_ofDays`** — the date of a day exists. -/

namespace SolutionAlgebra.Calendar

/-! ## Years of an era -/

/-- The year of an era that a day of it falls in. -/
def yearOfEra (dayOfEra : Int) : Int :=
  (dayOfEra - dayOfEra / 1460 + dayOfEra / 36524 - dayOfEra / 146096) / 365

/-- The day of its year that a day of an era is. -/
def dayOfYear (dayOfEra : Int) : Int :=
  dayOfEra - (365 * yearOfEra dayOfEra + yearOfEra dayOfEra / 4 - yearOfEra dayOfEra / 100)

/-- A day of an era by its century, the span of four years in it, the year in that, and the day of
the year. -/
structure EraParts (dayOfEra : Int) (century span year day : Int) : Prop where
  /-- The four centuries. -/
  centuries : 0 ≤ century ∧ century ≤ 3
  /-- The spans of a century. -/
  spans : 0 ≤ span ∧ span ≤ 24
  /-- The years of a span. -/
  years : 0 ≤ year ∧ year ≤ 3
  /-- The days of a year. -/
  days : 0 ≤ day ∧ day ≤ 365
  /-- Only the last year of a span has the last day, and of the last span only in the last
  century. -/
  leap : day ≤ 364 ∨ year = 3 ∧ (span ≤ 23 ∨ century = 3)
  /-- The parts make up the day. -/
  sum : dayOfEra = 36524 * century + 1461 * span + 365 * year + day

/-- A day of an era falls in one of its years. -/
theorem exists_eraParts {dayOfEra : Int} (hlow : 0 ≤ dayOfEra) (hhigh : dayOfEra < 146097) :
    ∃ century span year day, EraParts dayOfEra century span year day := by
  -- the last day of an era belongs to its last century, and that of a span to its last year
  let century := min (dayOfEra / 36524) 3
  let span := (dayOfEra - 36524 * century) / 1461
  let year := min ((dayOfEra - 36524 * century - 1461 * span) / 365) 3
  refine ⟨century, span, year, dayOfEra - 36524 * century - 1461 * span - 365 * year, ?_⟩
  constructor <;> omega

namespace EraParts

variable {dayOfEra century span year day : Int}

/-- The count of centuries, without the day that the last one has more than the others. -/
theorem centuries_eq (rest : Int) (hcentury : 0 ≤ century ∧ century ≤ 3) (hrest : 0 ≤ rest)
    (hlast : rest ≤ 36523 ∨ rest = 36524 ∧ century = 3) (hsum : dayOfEra = 36524 * century + rest) :
    dayOfEra / 36524 - dayOfEra / 146096 = century := by
  omega

/-- The count of spans as if none had a leap day: it runs ahead at the end of a span. -/
theorem spans_eq (rest : Int) (hcentury : 0 ≤ century ∧ century ≤ 3)
    (hspan : 0 ≤ span ∧ span ≤ 24) (hrest : 0 ≤ rest ∧ rest ≤ 1460)
    (hsum : dayOfEra = 36524 * century + 1461 * span + rest) :
    dayOfEra / 1460 = 25 * century + span ∧ 24 * century + span + rest ≤ 1459 ∨
      dayOfEra / 1460 = 25 * century + span + 1 ∧ 1460 ≤ 24 * century + span + rest := by
  omega

/-- The year by the parts. -/
theorem yearOfEra_eq (h : EraParts dayOfEra century span year day) :
    yearOfEra dayOfEra = 100 * century + 4 * span + year := by
  obtain ⟨hcentury, hspan, hyear, hday, hleap, hsum⟩ := h
  have hcenturies : dayOfEra / 36524 - dayOfEra / 146096 = century :=
    centuries_eq (1461 * span + 365 * year + day) hcentury (by omega) (by omega) (by omega)
  have hrest : dayOfEra = 36524 * century + 1461 * span + (365 * year + day) := by omega
  have hspans := spans_eq (365 * year + day) hcentury hspan (by omega) hrest
  unfold yearOfEra
  omega

/-- The day by the parts. -/
theorem dayOfYear_eq (h : EraParts dayOfEra century span year day) :
    dayOfYear dayOfEra = day := by
  have hyears := h.yearOfEra_eq
  obtain ⟨hcentury, hspan, hyear, hday, hleap, hsum⟩ := h
  unfold dayOfYear
  rw [hyears]
  omega

/-- The year of the calendar that a year of an era ends in, from its January on, is a leap year if
its last day in February is the twenty-ninth. -/
theorem isLeapYear_of_leap (h : EraParts dayOfEra century span year day) (hday : day = 365)
    (era : Int) : isLeapYear (yearOfEra dayOfEra + era * 400 + 1) = true := by
  rw [h.yearOfEra_eq]
  obtain ⟨hcentury, hspan, hyear, -, hleap, -⟩ := h
  obtain ⟨rfl, hlast⟩ : year = 3 ∧ (span ≤ 23 ∨ century = 3) := by omega
  rw [isLeapYear, Bool.and_eq_true, Bool.or_eq_true, beq_iff_eq, bne_iff_ne, beq_iff_eq]
  omega

end EraParts

/-! ## Months of a year from March on -/

/-- The month, counted from March, that a day of a year falls in. -/
def monthFromMarch (dayOfYear : Int) : Int := (5 * dayOfYear + 2) / 153

namespace Civil

/-- The date of a day of a month that is counted from March. -/
def ofMarch (year month day : Int) : Civil :=
  let month := if month < 10 then month + 3 else month - 9
  ⟨if month ≤ 2 then year + 1 else year, month.toNat, day.toNat⟩

/-- The date of a day by its era, year and month. -/
theorem ofDays_eq (days : Int) : ofDays days =
    let dayOfEra := (days + 719468) % 146097
    let month := monthFromMarch (dayOfYear dayOfEra)
    ofMarch (yearOfEra dayOfEra + (days + 719468) / 146097 * 400) month
      (dayOfYear dayOfEra - (153 * month + 2) / 5 + 1) := rfl

/-- The days up to a day of a month that is counted from March. -/
theorem toDays_ofMarch {year month day : Int} (hmonth : 0 ≤ month ∧ month ≤ 11) (hday : 0 ≤ day) :
    (ofMarch year month day).toDays = year / 400 * 146097 +
      (year % 400 * 365 + year % 400 / 4 - year % 400 / 100 +
        ((153 * month + 2) / 5 + day - 1)) - 719468 := by
  have hyear : (if (ofMarch year month day).month ≤ 2 then (ofMarch year month day).year - 1
      else (ofMarch year month day).year) = year := by
    unfold ofMarch
    dsimp only
    repeat' split
    all_goals omega
  have hmonth' : (((ofMarch year month day).month : Int) + 9) % 12 = month := by
    unfold ofMarch
    dsimp only
    split <;> omega
  have hday' : ((ofMarch year month day).day : Int) = day := Int.toNat_of_nonneg hday
  unfold toDays
  dsimp only
  rw [hyear, hmonth', hday']

/-- The months from March on that the days of a year fall in. -/
theorem monthFromMarch_bounds {day : Int} (hday : 0 ≤ day ∧ day ≤ 365) :
    (0 ≤ monthFromMarch day ∧ monthFromMarch day ≤ 11) ∧
      0 ≤ day - (153 * monthFromMarch day + 2) / 5 := by
  unfold monthFromMarch
  omega

/-- **The date of a day is that day.** -/
theorem toDays_ofDays (days : Int) : (ofDays days).toDays = days := by
  obtain ⟨century, span, year, day, h⟩ :=
    @exists_eraParts ((days + 719468) % 146097) (by omega) (by omega)
  have hyears := h.yearOfEra_eq
  have hdays := h.dayOfYear_eq
  have hcentury := h.centuries
  have hspan := h.spans
  have hyear := h.years
  obtain ⟨hmonth, hfirst⟩ := monthFromMarch_bounds h.days
  have hera : ∀ era : Int, (yearOfEra ((days + 719468) % 146097) + era * 400) / 400 = era ∧
      (yearOfEra ((days + 719468) % 146097) + era * 400) % 400 =
        yearOfEra ((days + 719468) % 146097) := by
    intro era
    omega
  rw [ofDays_eq]
  dsimp only
  rw [hdays, toDays_ofMarch hmonth (by omega), (hera _).1, (hera _).2]
  unfold dayOfYear at hdays
  omega

/-- The length of a month is its distance from the next one, counted from March; only that of the
last month depends on the year. -/
theorem daysInMonth_ofMarch {year month day : Int} (hmonth : 0 ≤ month ∧ month ≤ 10) :
    (daysInMonth (ofMarch year month day).year (ofMarch year month day).month : Int) =
      (153 * (month + 1) + 2) / 5 - (153 * month + 2) / 5 := by
  obtain ⟨m, rfl⟩ := Int.eq_ofNat_of_zero_le hmonth.1
  have hm : m ≤ 10 := by omega
  unfold ofMarch daysInMonth
  interval_cases m <;> rfl

/-- The month and the day of a date are not too small, and the month is not too large. -/
theorem ofMarch_bounds {year month day : Int} (hmonth : 0 ≤ month ∧ month ≤ 11) (hday : 1 ≤ day) :
    1 ≤ (ofMarch year month day).month ∧ (ofMarch year month day).month ≤ 12 ∧
      1 ≤ (ofMarch year month day).day := by
  unfold ofMarch
  dsimp only
  refine ⟨?_, ?_, ?_⟩
  · split <;> omega
  · split <;> omega
  · omega

/-- The day of a month from March on is not after the last of the month. -/
theorem day_le_daysInMonth {year day : Int} (hday : 0 ≤ day ∧ day ≤ 365)
    (hleap : day = 365 → isLeapYear (year + 1) = true) :
    let date := ofMarch year (monthFromMarch day) (day - (153 * monthFromMarch day + 2) / 5 + 1)
    date.day ≤ daysInMonth date.year date.month := by
  obtain ⟨hmonth, hfirst⟩ := monthFromMarch_bounds hday
  dsimp only
  -- the last month, February, is the one whose length depends on the year
  obtain hlast | hlast : monthFromMarch day ≤ 10 ∨ monthFromMarch day = 11 := by omega
  · have hlength := @daysInMonth_ofMarch year _
      (day - (153 * monthFromMarch day + 2) / 5 + 1) ⟨hmonth.1, hlast⟩
    have hdate : ((ofMarch year (monthFromMarch day)
        (day - (153 * monthFromMarch day + 2) / 5 + 1)).day : Int) =
        day - (153 * monthFromMarch day + 2) / 5 + 1 := Int.toNat_of_nonneg (by omega)
    have hnext : day < (153 * (monthFromMarch day + 1) + 2) / 5 := by
      unfold monthFromMarch
      omega
    omega
  · rw [hlast]
    show (day - (153 * 11 + 2) / 5 + 1).toNat ≤ if isLeapYear (year + 1) then 29 else 28
    split
    · omega
    · next hcommon =>
      have : day ≠ 365 := fun h => hcommon (hleap h)
      omega

/-- The month and the day of the date of a day are those of a year. -/
theorem ofDays_bounds (days : Int) :
    let date := ofDays days
    1 ≤ date.month ∧ date.month ≤ 12 ∧ 1 ≤ date.day ∧
      date.day ≤ daysInMonth date.year date.month := by
  obtain ⟨century, span, year, day, h⟩ :=
    @exists_eraParts ((days + 719468) % 146097) (by omega) (by omega)
  obtain ⟨hmonth, hfirst⟩ := monthFromMarch_bounds h.days
  have hlast := day_le_daysInMonth h.days fun hlast =>
    h.isLeapYear_of_leap hlast ((days + 719468) / 146097)
  have hbounds := @ofMarch_bounds
    (yearOfEra ((days + 719468) % 146097) + (days + 719468) / 146097 * 400) _
    (day - (153 * monthFromMarch day + 2) / 5 + 1) hmonth (by omega)
  rw [ofDays_eq]
  dsimp only at hlast ⊢
  rw [h.dayOfYear_eq]
  exact ⟨hbounds.1, hbounds.2.1, hbounds.2.2, hlast⟩

/-- A month has at most 31 days. -/
theorem daysInMonth_le (year : Int) (month : Nat) : daysInMonth year month ≤ 31 := by
  unfold daysInMonth
  repeat' split
  all_goals omega

/-- **The date of a day exists, if the calendar reaches its year.** -/
theorem isValid_ofDays {days : Int}
    (h : firstYear ≤ (ofDays days).year ∧ (ofDays days).year ≤ lastYear) :
    (ofDays days).isValid = true := by
  obtain ⟨hmonth, hmonth', hday, hday'⟩ := ofDays_bounds days
  simp only [isValid, Bool.and_eq_true, decide_eq_true_iff]
  exact ⟨⟨⟨⟨⟨h.1, h.2⟩, hmonth⟩, hmonth'⟩, hday⟩, hday'⟩

end Civil

end SolutionAlgebra.Calendar
