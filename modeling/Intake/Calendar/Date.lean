/-!
# Dates of the proleptic Gregorian calendar

A date is a day number counted from 1970-01-01, kept within the years that the calendar supports.
Year, month and day are read off the day number, and each way of naming a day (month and day, day of
the year, week and weekday) is a partial function back to it.
-/

namespace Intake

/-- The days of the week, Monday first. -/
inductive Weekday where
  | monday | tuesday | wednesday | thursday | friday | saturday | sunday
  deriving Repr, DecidableEq, Inhabited

namespace Weekday

/-- Days elapsed since Monday. -/
def index : Weekday → Nat
  | monday => 0 | tuesday => 1 | wednesday => 2 | thursday => 3
  | friday => 4 | saturday => 5 | sunday => 6

/-- The weekday a number of days after a Monday. -/
def ofIndex (days : Nat) : Weekday :=
  match days % 7 with
  | 0 => monday | 1 => tuesday | 2 => wednesday | 3 => thursday
  | 4 => friday | 5 => saturday | _ => sunday

theorem ofIndex_index (day : Weekday) : ofIndex day.index = day := by cases day <;> rfl

/-- Days from the last `start` to this weekday, between 0 and 6. -/
def daysSince (day start : Weekday) : Nat := (day.index + 7 - start.index) % 7

end Weekday

/-- The Gregorian leap-year rule. -/
def isLeapYear (year : Int) : Bool :=
  year % 4 == 0 && (year % 100 != 0 || year % 400 == 0)

/-- The number of days in a year. -/
def yearLength (year : Int) : Nat := if isLeapYear year then 366 else 365

/-- The day number of a year's first day. -/
def yearStart (year : Int) : Int :=
  365 * (year - 1) + (year - 1) / 4 - (year - 1) / 100 + (year - 1) / 400 - 719162

/-- A year and its successor are as far apart as the year is long. -/
theorem yearStart_succ (year : Int) : yearStart (year + 1) = yearStart year + yearLength year := by
  unfold yearStart yearLength isLeapYear
  split <;> rename_i leap <;> simp at leap <;> omega

/-- Days of the year before a month, in a common year or a leap year. -/
def monthStart (leap : Bool) (month : Nat) : Nat :=
  let extra := if leap then 1 else 0
  match month with
  | 0 | 1 => 0
  | 2 => 31
  | 3 => 59 + extra
  | 4 => 90 + extra
  | 5 => 120 + extra
  | 6 => 151 + extra
  | 7 => 181 + extra
  | 8 => 212 + extra
  | 9 => 243 + extra
  | 10 => 273 + extra
  | 11 => 304 + extra
  | 12 => 334 + extra
  | _ => 365 + extra

/-- The number of days in a month. -/
def monthLength (leap : Bool) (month : Nat) : Nat :=
  monthStart leap (month + 1) - monthStart leap month

/-- The first and the last day number of the supported years, -262143 and 262142. -/
def firstDay : Int := -96465292
@[inherit_doc firstDay]
def lastDay : Int := 95026236

/-- A day of the supported years. -/
structure Date where
  /-- Days since 1970-01-01. -/
  day : Int
  inRange : firstDay ≤ day ∧ day ≤ lastDay
  deriving DecidableEq

namespace Date

@[ext] theorem ext {left right : Date} (same : left.day = right.day) : left = right := by
  cases left; cases right; simp_all

/-- The date with a day number, if its year is supported. -/
def ofDay? (day : Int) : Option Date :=
  if inRange : firstDay ≤ day ∧ day ≤ lastDay then some ⟨day, inRange⟩ else none

/-- The year whose days include a day number: an estimate from the mean length of a year, moved by
at most one. -/
def yearOfDay (day : Int) : Int :=
  let estimate := (400 * (day + 719162)) / 146097 + 1
  if day < yearStart estimate then estimate - 1
  else if yearStart (estimate + 1) ≤ day then estimate + 1
  else estimate

/-- A day lies between the start of its year and the start of the next. -/
theorem yearStart_le_day (day : Int) :
    yearStart (yearOfDay day) ≤ day ∧ day < yearStart (yearOfDay day + 1) := by
  unfold yearOfDay yearStart
  simp only
  split
  · constructor <;> omega
  · split
    · constructor <;> omega
    · constructor <;> omega

/-- The year of a date. -/
def year (date : Date) : Int := yearOfDay date.day

/-- The day of the year, from 1. -/
def ordinal (date : Date) : Nat := (date.day - yearStart date.year).toNat + 1

/-- The month that holds a day of the year. -/
def monthOfOrdinal (leap : Bool) (ordinal : Nat) : Nat :=
  if ordinal ≤ monthStart leap 2 then 1
  else if ordinal ≤ monthStart leap 3 then 2
  else if ordinal ≤ monthStart leap 4 then 3
  else if ordinal ≤ monthStart leap 5 then 4
  else if ordinal ≤ monthStart leap 6 then 5
  else if ordinal ≤ monthStart leap 7 then 6
  else if ordinal ≤ monthStart leap 8 then 7
  else if ordinal ≤ monthStart leap 9 then 8
  else if ordinal ≤ monthStart leap 10 then 9
  else if ordinal ≤ monthStart leap 11 then 10
  else if ordinal ≤ monthStart leap 12 then 11
  else 12

/-- The month of a date, from 1 to 12. -/
def month (date : Date) : Nat := monthOfOrdinal (isLeapYear date.year) date.ordinal

/-- The day of the month, from 1. -/
def dayOfMonth (date : Date) : Nat := date.ordinal - monthStart (isLeapYear date.year) date.month

/-- The quarter of the year, from 1 to 4. -/
def quarter (date : Date) : Nat := (date.month - 1) / 3 + 1

/-- The weekday of a day number: 1970-01-01 was a Thursday. -/
def weekdayOfDay (day : Int) : Weekday := Weekday.ofIndex ((day + 3) % 7).toNat

/-- The weekday of a date. -/
def weekday (date : Date) : Weekday := weekdayOfDay date.day

/-- Weeks begun on `start` since the year began; the days before the first such day are week 0. -/
def weekFrom (date : Date) (start : Weekday) : Nat :=
  (date.ordinal + 6 - date.weekday.daysSince start) / 7

/-- The day number of the Monday that begins ISO week 1: the week that holds January 4th. -/
def isoYearStart (year : Int) : Int :=
  let fourth := yearStart year + 3
  fourth - (fourth + 3) % 7

/-- The year that an ISO week belongs to. -/
def isoYear (date : Date) : Int :=
  if date.day < isoYearStart date.year then date.year - 1
  else if isoYearStart (date.year + 1) ≤ date.day then date.year + 1
  else date.year

/-- The ISO week number, from 1 to 53. -/
def isoWeek (date : Date) : Nat := ((date.day - isoYearStart date.isoYear) / 7).toNat + 1

/-- The date with a year, a month and a day of the month. -/
def ofYearMonthDay? (year : Int) (month day : Nat) : Option Date :=
  if 1 ≤ month ∧ month ≤ 12 ∧ 1 ≤ day ∧ day ≤ monthLength (isLeapYear year) month then
    ofDay? (yearStart year + monthStart (isLeapYear year) month + day - 1)
  else none

/-- The date with a year and a day of the year. -/
def ofYearDay? (year : Int) (ordinal : Nat) : Option Date :=
  if 1 ≤ ordinal ∧ ordinal ≤ yearLength year then ofDay? (yearStart year + ordinal - 1) else none

/-- The date with an ISO year, week and weekday. -/
def ofIsoWeek? (year : Int) (week : Nat) (weekday : Weekday) : Option Date :=
  let day := isoYearStart year + 7 * (week - 1 : Int) + weekday.index
  if 1 ≤ week ∧ isoYearStart year + 7 * week ≤ isoYearStart (year + 1) then ofDay? day else none

/-- The date with a year, a week counted from the first `start` of the year, and a weekday. -/
def ofWeekFrom? (year : Int) (start : Weekday) (week : Nat) (weekday : Weekday) : Option Date :=
  let first := weekdayOfDay (yearStart year)
  let ordinal : Int := 1 + start.daysSince first + ((week : Int) - 1) * 7 + weekday.daysSince start
  if 1 ≤ ordinal then ofYearDay? year ordinal.toNat else none

/-- January 1st, 1970. -/
def epoch : Date := ⟨0, by decide⟩

instance : Inhabited Date := ⟨epoch⟩

end Date

end Intake
