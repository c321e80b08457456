/-!
# Dates

Dates of the proleptic Gregorian calendar, with the year zero and negative years, and what
is derived from them: the neighbouring days, the day of the week, the day of the year and
the week of the year in three counts.

## Main definitions

* `Date` — a year, a month and a day that exist
* `Date.next`, `Date.previous` — the neighbouring days
* `Date.dayNumber` — days since 1970-01-01
* `Date.isoWeek` — year and week of the ISO 8601 count
-/

namespace ApiContract

/-- Whether a year has a 29th of February. -/
def isLeapYear (year : Int) : Bool :=
  year % 4 == 0 && (year % 100 != 0 || year % 400 == 0)

/-- The number of days of a month, zero for a month that does not exist. -/
def daysInMonth (year : Int) : Nat → Nat
  | 1 | 3 | 5 | 7 | 8 | 10 | 12 => 31
  | 4 | 6 | 9 | 11 => 30
  | 2 => if isLeapYear year then 29 else 28
  | _ => 0

/-- A date of the Gregorian calendar. Days and months count from one. -/
structure Date where
  year : Int
  month : Nat
  day : Nat
  day_pos : 1 ≤ day
  day_le : day ≤ daysInMonth year month
  deriving DecidableEq, Repr

namespace Date

/-- The first and the last year that input may name. -/
def firstYear : Int := -262143

/-- The last year that input may name. -/
def lastYear : Int := 262142

/-- The date with the given year, month and day, if it exists. -/
def of? (year : Int) (month day : Nat) : Option Date :=
  if h : 1 ≤ day ∧ day ≤ daysInMonth year month then
    if firstYear ≤ year ∧ year ≤ lastYear then some ⟨year, month, day, h.1, h.2⟩ else none
  else none

/-- The first of January. -/
def newYear (year : Int) : Date := ⟨year, 1, 1, by decide, by simp [daysInMonth]⟩

/-- The last day of December. -/
def newYearsEve (year : Int) : Date := ⟨year, 12, 31, by decide, by simp [daysInMonth]⟩

/-- The day after. -/
def next (d : Date) : Date :=
  if h : d.day + 1 ≤ daysInMonth d.year d.month then ⟨d.year, d.month, d.day + 1, by omega, h⟩
  else if h : 1 ≤ daysInMonth d.year (d.month + 1) then ⟨d.year, d.month + 1, 1, by omega, h⟩
  else newYear (d.year + 1)

/-- The day before. -/
def previous (d : Date) : Date :=
  if h : 1 ≤ d.day - 1 then
    ⟨d.year, d.month, d.day - 1, h, Nat.le_trans (Nat.sub_le ..) d.day_le⟩
  else if h : 1 ≤ daysInMonth d.year (d.month - 1) then
    ⟨d.year, d.month - 1, daysInMonth d.year (d.month - 1), h, Nat.le_refl _⟩
  else newYearsEve (d.year - 1)

/-- Days of a year before a month. -/
def daysBeforeMonth (year : Int) (month : Nat) : Nat :=
  (List.range month).foldl (fun days m => days + daysInMonth year m) 0

/-- The day of the year, from one. -/
def ordinal (d : Date) : Nat :=
  daysBeforeMonth d.year d.month + d.day

/-- Days from 1970-01-01 to the first of January of a year. -/
def daysBeforeYear (year : Int) : Int :=
  let y := year - 1
  365 * (year - 1970) + (y / 4 - 1969 / 4) - (y / 100 - 1969 / 100) + (y / 400 - 1969 / 400)

/-- Days since 1970-01-01. -/
def dayNumber (d : Date) : Int :=
  daysBeforeYear d.year + d.ordinal - 1

/-- The date a number of days after 1970-01-01. Years are counted from March, so that a leap
day is the last day of its year, in eras of 400 years. -/
def ofDayNumber (n : Int) : Date :=
  let shifted := n + 719468
  let era := shifted / 146097
  let dayOfEra := shifted % 146097
  let yearOfEra := (dayOfEra - dayOfEra / 1460 + dayOfEra / 36524 - dayOfEra / 146096) / 365
  let dayOfYear := dayOfEra - (365 * yearOfEra + yearOfEra / 4 - yearOfEra / 100)
  let monthFromMarch := (5 * dayOfYear + 2) / 153
  let day := dayOfYear - (153 * monthFromMarch + 2) / 5 + 1
  let month := if monthFromMarch < 10 then monthFromMarch + 3 else monthFromMarch - 9
  let year := yearOfEra + era * 400 + (if month ≤ 2 then 1 else 0)
  (of? year month.toNat day.toNat).getD (newYear 1970)

/-- Days since the last Monday. -/
def weekday (d : Date) : Nat :=
  ((d.dayNumber + 3) % 7).toNat

/-- Days since the last Sunday. -/
def weekdayFromSunday (d : Date) : Nat :=
  (d.weekday + 1) % 7

/-- The week of the year when weeks start on Sunday; the days before the first are in week
zero. -/
def weekFromSunday (d : Date) : Nat :=
  (6 + d.ordinal - d.weekdayFromSunday) / 7

/-- The week of the year when weeks start on Monday; the days before the first are in week
zero. -/
def weekFromMonday (d : Date) : Nat :=
  (6 + d.ordinal - d.weekday) / 7

/-- The number of ISO weeks of a year: 53 when it starts or ends on a Thursday. -/
def isoWeeksInYear (year : Int) : Nat :=
  if (newYear year).weekday = 3 ∨ (newYearsEve year).weekday = 3 then 53 else 52

/-- The year and the week of the ISO 8601 count, in which a week belongs to the year of its
Thursday. -/
def isoWeek (d : Date) : Int × Nat :=
  let week := (d.ordinal + 9 - d.weekday) / 7
  if week = 0 then (d.year - 1, isoWeeksInYear (d.year - 1))
  else if isoWeeksInYear d.year < week then (d.year + 1, 1)
  else (d.year, week)

/-- The English names of the days of the week, from Monday. -/
def weekdayNames : List String :=
  ["Monday", "Tuesday", "Wednesday", "Thursday", "Friday", "Saturday", "Sunday"]

/-- The English names of the months. -/
def monthNames : List String :=
  ["January", "February", "March", "April", "May", "June", "July", "August", "September",
    "October", "November", "December"]

/-- The name of the day of the week. -/
def weekdayName (d : Date) : String :=
  weekdayNames.getD d.weekday ""

/-- The name of the month. -/
def monthName (d : Date) : String :=
  monthNames.getD (d.month - 1) ""

end Date

end ApiContract
