import Intake.Calendar.Date

/-!
# Dates from their parts

A date is known from its year and its day of the year, and from its year, its month and its day of
the month: `Date.ofYearMonthDay?_self` reads a date back from the parts that it shows, and
`Date.parts_of_ofYearMonthDay?` says that a date shows the parts that it was made from.
-/

namespace Intake

theorem yearStart_le {year later : Int} (order : year ≤ later) :
    yearStart year ≤ yearStart later := by
  unfold yearStart
  omega

namespace Date

/-- A day lies in one year. -/
theorem yearOfDay_eq {day year : Int} (begun : yearStart year ≤ day)
    (notOver : day < yearStart (year + 1)) : yearOfDay day = year := by
  obtain ⟨low, high⟩ := yearStart_le_day day
  by_cases before : yearOfDay day + 1 ≤ year
  · have := yearStart_le before
    omega
  · by_cases after : year + 1 ≤ yearOfDay day
    · have := yearStart_le after
      omega
    · omega

/-- A day of the year counts from the start of the year, and not beyond its end. -/
theorem ordinal_bounds (date : Date) : 1 ≤ date.ordinal ∧ date.ordinal ≤ yearLength date.year ∧
    yearStart date.year + date.ordinal - 1 = date.day := by
  have bounds : yearStart date.year ≤ date.day ∧ date.day < yearStart (date.year + 1) :=
    yearStart_le_day date.day
  rw [yearStart_succ] at bounds
  unfold ordinal
  omega

/-- A date is known from its year and its day of the year. -/
theorem eq_of_ordinal {left right : Date} (year : left.year = right.year)
    (ordinal : left.ordinal = right.ordinal) : left = right := by
  have isLeft := left.ordinal_bounds.2.2
  have isRight := right.ordinal_bounds.2.2
  rw [year, ordinal] at isLeft
  exact Date.ext (isLeft.symm.trans isRight)

/-- A day of a year lies in its month. -/
theorem monthOfOrdinal_bounds : ∀ leap : Bool, ∀ ordinal < 367, 1 ≤ ordinal →
    ordinal ≤ (if leap then 366 else 365) →
    (1 ≤ monthOfOrdinal leap ordinal ∧ monthOfOrdinal leap ordinal ≤ 12) ∧
      monthStart leap (monthOfOrdinal leap ordinal) < ordinal ∧
      ordinal ≤ monthStart leap (monthOfOrdinal leap ordinal + 1) := by
  decide +kernel

/-- The month and the day of the month lie in the year, and they name the day. -/
theorem month_bounds (date : Date) : (1 ≤ date.month ∧ date.month ≤ 12) ∧
    (1 ≤ date.dayOfMonth ∧
      date.dayOfMonth ≤ monthLength (isLeapYear date.year) date.month) ∧
    yearStart date.year + monthStart (isLeapYear date.year) date.month + date.dayOfMonth - 1 =
      date.day := by
  obtain ⟨low, high, isDay⟩ := date.ordinal_bounds
  have short : yearLength date.year < 367 := by
    unfold yearLength
    split <;> decide
  obtain ⟨isMonth, after, before⟩ :=
    monthOfOrdinal_bounds (isLeapYear date.year) date.ordinal (by omega) low high
  change 1 ≤ date.month ∧ date.month ≤ 12 at isMonth
  change monthStart (isLeapYear date.year) date.month < date.ordinal at after
  change date.ordinal ≤ monthStart (isLeapYear date.year) (date.month + 1) at before
  unfold dayOfMonth monthLength
  omega

/-- A date is the one with its year, its month and its day of the month. -/
theorem ofYearMonthDay?_self (date : Date) :
    ofYearMonthDay? date.year date.month date.dayOfMonth = some date := by
  obtain ⟨isMonth, isDay, same⟩ := date.month_bounds
  rw [ofYearMonthDay?, if_pos ⟨isMonth.1, isMonth.2, isDay⟩, same]
  exact dif_pos date.inRange

/-- Days of the month have two digits at most. -/
theorem dayOfMonth_le (date : Date) : date.dayOfMonth ≤ 31 := by
  obtain ⟨isMonth, isDay, -⟩ := date.month_bounds
  have longest : ∀ leap : Bool, ∀ month < 13, monthLength leap month ≤ 31 := by decide
  exact Nat.le_trans isDay.2 (longest _ _ (by omega))

/-- A day of a month lies in that month. -/
theorem monthOfOrdinal_monthStart : ∀ leap : Bool, ∀ month < 13, ∀ day < 32,
    1 ≤ month ∧ 1 ≤ day ∧ day ≤ monthLength leap month →
    monthOfOrdinal leap (monthStart leap month + day) = month ∧
      monthStart leap month + day ≤ (if leap then 366 else 365) := by
  decide +kernel

/-- A date is made from parts that are in range, and shows them. -/
theorem parts_of_ofYearMonthDay? {year : Int} {month day : Nat} {date : Date}
    (made : ofYearMonthDay? year month day = some date) :
    (1 ≤ month ∧ month ≤ 12) ∧ (1 ≤ day ∧ day ≤ 31) ∧
      date.year = year ∧ date.month = month ∧ date.dayOfMonth = day := by
  unfold ofYearMonthDay? ofDay? at made
  obtain ⟨⟨monthLow, monthHigh, dayLow, dayHigh⟩, made⟩ := Option.ite_none_right_eq_some.1 made
  obtain ⟨inRange, made⟩ := Option.dite_none_right_eq_some.1 made
  have longest : ∀ leap : Bool, ∀ month < 13, monthLength leap month ≤ 31 := by decide
  have short : day ≤ 31 := Nat.le_trans dayHigh (longest _ _ (by omega))
  obtain ⟨isMonth, inYear⟩ := monthOfOrdinal_monthStart (isLeapYear year) month (by omega) day
    (by omega) ⟨monthLow, dayLow, dayHigh⟩
  have isYear : date.year = year := by
    cases made
    refine yearOfDay_eq (by dsimp only; omega) ?_
    rw [yearStart_succ, yearLength]
    dsimp only
    omega
  have isOrdinal : date.ordinal = monthStart (isLeapYear year) month + day := by
    rw [ordinal, isYear]
    cases made
    dsimp only
    omega
  refine ⟨⟨monthLow, monthHigh⟩, ⟨dayLow, short⟩, isYear, ?_, ?_⟩
  · rw [Date.month, isYear, isOrdinal, isMonth]
  · rw [dayOfMonth, Date.month, isYear, isOrdinal, isMonth, Nat.add_sub_cancel_left]

end Date

end Intake
