import Intake.Calendar.Instant

/-!
# Daylight time

A rule of daylight time says how far walls run ahead of universal time in each part of a year. The
parts are apart from each other and from the ends of the year, so that the year which walls show
tells in which part one is. Each rule carries this with it. Daylight time that spans the turn of the
year is not treated.
-/

namespace Intake

/-- A yearly moment: the `week`-th such weekday of a month, at a second of the day. -/
structure YearlyMoment where
  month : Nat
  week : Nat
  weekday : Weekday
  secondOfDay : Nat
  deriving DecidableEq

theorem Weekday.daysSince_lt (day start : Weekday) : day.daysSince start < 7 :=
  Nat.mod_lt _ (by decide)

namespace YearlyMoment

/-- The seconds from 1970 on the wall to the moment in a year. -/
def secondsIn (moment : YearlyMoment) (year : Int) : Int :=
  let monthStart := yearStart year + monthStart (isLeapYear year) moment.month
  let first := monthStart + moment.weekday.daysSince (Date.weekdayOfDay monthStart)
  (first + 7 * ((moment.week : Int) - 1)) * 86400 + moment.secondOfDay

/-- A yearly moment lies in the week of its month that it names, at its second of the day. -/
theorem secondsIn_bounds (moment : YearlyMoment) (year : Int) :
    let week := yearStart year + monthStart (isLeapYear year) moment.month +
      7 * ((moment.week : Int) - 1)
    week * 86400 + moment.secondOfDay ≤ moment.secondsIn year ∧
      moment.secondsIn year ≤ (week + 6) * 86400 + moment.secondOfDay := by
  have days := moment.weekday.daysSince_lt (Date.weekdayOfDay
    (yearStart year + monthStart (isLeapYear year) moment.month))
  unfold secondsIn
  dsimp only
  omega

/-- Two in the morning of the second Sunday of March. -/
def marchSunday : YearlyMoment where
  month := 3
  week := 2
  weekday := .sunday
  secondOfDay := 7200

/-- Two in the morning of the first Sunday of November. -/
def novemberSunday : YearlyMoment where
  month := 11
  week := 1
  weekday := .sunday
  secondOfDay := 7200

/-- The second Sunday of March lies in March, whether the year is a leap year or not. -/
theorem marchSunday_bounds (year : Int) :
    (yearStart year + 59) * 86400 ≤ marchSunday.secondsIn year ∧
      marchSunday.secondsIn year < (yearStart year + 91) * 86400 := by
  have bounds : (yearStart year + monthStart (isLeapYear year) 3 + 7) * 86400 + 7200 ≤
      marchSunday.secondsIn year ∧ marchSunday.secondsIn year ≤
      (yearStart year + monthStart (isLeapYear year) 3 + 7 + 6) * 86400 + 7200 :=
    marchSunday.secondsIn_bounds year
  have march : ∀ leap, 59 ≤ monthStart leap 3 ∧ monthStart leap 3 ≤ 60 := by decide
  have := march (isLeapYear year)
  omega

/-- The first Sunday of November is one of its first days. -/
theorem novemberSunday_bounds (year : Int) :
    (yearStart year + 304) * 86400 ≤ novemberSunday.secondsIn year ∧
      novemberSunday.secondsIn year < (yearStart year + 335) * 86400 := by
  have bounds : (yearStart year + monthStart (isLeapYear year) 11 + 0) * 86400 + 7200 ≤
      novemberSunday.secondsIn year ∧ novemberSunday.secondsIn year ≤
      (yearStart year + monthStart (isLeapYear year) 11 + 0 + 6) * 86400 + 7200 :=
    novemberSunday.secondsIn_bounds year
  have november : ∀ leap, 304 ≤ monthStart leap 11 ∧ monthStart leap 11 ≤ 305 := by decide
  have := november (isLeapYear year)
  omega

end YearlyMoment

/-- Standard time for one part of the year and daylight time for the other. -/
structure DaylightRule where
  /-- Seconds that standard time runs ahead of universal time. -/
  standard : Int
  /-- Seconds that daylight time runs ahead of universal time. -/
  daylight : Int
  /-- When daylight time begins, on the standard clock. -/
  begins : YearlyMoment
  /-- When daylight time ends, on the daylight clock. -/
  ends : YearlyMoment
  ahead : standard < daylight
  standard_gt : -86400 < standard
  daylight_lt : daylight < 86400
  /-- Daylight time begins at least two days after the year does. -/
  begins_ge : ∀ year, yearStart year * 86400 + 172800 ≤ begins.secondsIn year
  /-- Daylight time lasts at least twice as long as it runs ahead of standard time. -/
  lasts : ∀ year, begins.secondsIn year + 2 * (daylight - standard) ≤ ends.secondsIn year
  /-- Daylight time ends at least two days before the year does. -/
  ends_le : ∀ year, ends.secondsIn year + 172800 ≤ yearStart (year + 1) * 86400
  deriving DecidableEq

namespace DaylightRule

/-- Daylight time from the second Sunday of March to the first Sunday of November, both at two in
the morning, with standard time five hours behind universal time. -/
def eastern : DaylightRule where
  standard := -5 * 3600
  daylight := -4 * 3600
  begins := .marchSunday
  ends := .novemberSunday
  ahead := by decide
  standard_gt := by decide
  daylight_lt := by decide
  begins_ge year := by
    have begins := YearlyMoment.marchSunday_bounds year
    omega
  lasts year := by
    have begins := YearlyMoment.marchSunday_bounds year
    have ends := YearlyMoment.novemberSunday_bounds year
    omega
  ends_le year := by
    have ends := YearlyMoment.novemberSunday_bounds year
    have length : 365 ≤ yearLength year := by
      unfold yearLength
      split <;> decide
    rw [yearStart_succ]
    omega

/-- The offset that a wall time is read with. Wall times strictly inside the time that is skipped
have none; those that occur twice are read as standard time. -/
def offsetFor? (rule : DaylightRule) (wall : WallTime) : Option Int :=
  let begins := rule.begins.secondsIn wall.date.year
  let ends := rule.ends.secondsIn wall.date.year
  let shift := rule.daylight - rule.standard
  let now := wall.seconds
  if now ≤ begins then some rule.standard
  else if now < begins + shift then none
  else if now < ends - shift then some rule.daylight
  else some rule.standard

end DaylightRule

end Intake
