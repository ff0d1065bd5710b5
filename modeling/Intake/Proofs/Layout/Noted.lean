import Intake.Layout.Rfc3339
import Intake.Proofs.Layout.WallTime

/-!
# Components that are noted one after the other

What is taken note of where each component is read once: the components then are those that were
noted, and nothing can disagree. A year, a month and a day make the date that has them, and an hour,
a minute, a second and a fraction make the clock reading of the strict form, so
`Fields.toWallTime?_noteClock` and `Fields.toInstant?_note_offset` say exactly which wall times and
instants come of them.
-/

namespace Intake

theorem Clock.bounds_of_clock? {hour minute second nano : Nat} {clock : Clock}
    (made : Rfc3339.clock? hour minute second nano = some clock) :
    hour ≤ 23 ∧ minute ≤ 59 ∧ second ≤ 60 := by
  unfold Rfc3339.clock? Clock.ofParts? at made
  split at made <;> obtain ⟨bounds, -⟩ := Option.dite_none_right_eq_some.1 made <;> omega

namespace Fields

variable {fields result : Fields} {component : Component} {value : Int}

/-- The components with one more taken note of. -/
def note (fields : Fields) (component : Component) (value : Int) : Fields :=
  ⟨fun other => if other = component then some value else fields.read other⟩

theorem read_note (component other : Component) (value : Int) :
    (fields.note component value).read other =
      if other = component then some value else fields.read other := rfl

/-- A component that is read for the first time is taken note of if it is in range. -/
theorem record?_iff_note (fresh : fields.read component = none) :
    fields.record? component value = some result ↔
      (component.range.1 ≤ value ∧ value ≤ component.range.2) ∧
        result = fields.note component value := by
  simp only [record?, fresh, Option.ite_none_right_eq_some, Option.some.injEq, note]
  exact and_congr_right fun _ => eq_comm

theorem eq_note (fresh : fields.read component = none)
    (noted : fields.record? component value = some result) :
    result = fields.note component value :=
  ((record?_iff_note fresh).1 noted).2

/-- What is taken note of after an hour: a half of the day and an hour of that half. -/
def noteHour (fields : Fields) (hour : Nat) : Fields :=
  (fields.note .halfOfDay (hour / 12 : Int)).note .hourOfHalf (hour % 12 : Int)

/-- An hour that is read for the first time is taken note of if there is such an hour. -/
theorem recordHour?_iff_note {hour : Nat} (freshHalf : fields.read .halfOfDay = none)
    (freshHour : fields.read .hourOfHalf = none) :
    fields.recordHour? hour = some result ↔ hour ≤ 23 ∧ result = fields.noteHour hour := by
  have freshLater : (fields.note .halfOfDay (hour / 12 : Int)).read .hourOfHalf = none := freshHour
  simp only [recordHour?, Option.ite_none_right_eq_some, Option.bind_eq_some_iff,
    record?_iff_note freshHalf]
  constructor
  · rintro ⟨inRange, _, ⟨-, rfl⟩, noted⟩
    exact ⟨by omega, eq_note freshLater noted⟩
  · rintro ⟨inRange, rfl⟩
    refine ⟨by omega, _, ⟨?_, rfl⟩, (record?_iff_note freshLater).2 ⟨?_, rfl⟩⟩ <;>
    · simp only [Component.range]
      omega

theorem eq_noteHour {hour : Nat} (freshHalf : fields.read .halfOfDay = none)
    (freshHour : fields.read .hourOfHalf = none) (noted : fields.recordHour? hour = some result) :
    result = fields.noteHour hour :=
  ((recordHour?_iff_note freshHalf freshHour).1 noted).2

/-- Components that a date does not determine make no difference to the date. -/
theorem toDate_note (outside : component ∉ dateComponents) :
    (fields.note component value).toDate = fields.toDate := by
  have same : ∀ other ∈ dateComponents,
      (fields.note component value).read other = fields.read other := by
    intro other inside
    rw [read_note, if_neg]
    rintro rfl
    exact outside inside
  have agrees (date : Date) :
      (fields.note component value).agreeWith date = fields.agreeWith date := by
    rw [agreeWith, agreeWith, Bool.eq_iff_iff, List.all_eq_true, List.all_eq_true]
    exact forall₂_congr fun other inside => by rw [same other inside]
  simp only [toDate, candidate, agrees, same .year (by decide), same .century (by decide),
    same .yearOfCentury (by decide), same .isoYear (by decide),
    same .isoYearOfCentury (by decide), same .weekday (by decide), same .month (by decide),
    same .day (by decide), same .ordinal (by decide), same .weekFromSunday (by decide),
    same .weekFromMonday (by decide), same .isoWeek (by decide)]

/-- The components of a date whose year, month and day were read. -/
def ofDate (year month day : Nat) : Fields :=
  ((empty.note .year year).note .month month).note .day day

/-- The date of a year, a month and a day is the one that has them. -/
theorem toDate_ofDate_eq_ok {year month day : Nat} {date : Date} :
    (ofDate year month day).toDate = .ok date ↔
      Date.ofYearMonthDay? year month day = some date := by
  have isCandidate : (ofDate year month day).candidate =
      .ok (Date.ofYearMonthDay? year month day) := by
    simp [candidate, ofDate, read_note, empty, resolveYear, bind, Except.bind]
  simp only [toDate, isCandidate, bind, Except.bind]
  cases made : Date.ofYearMonthDay? year month day with
  | none => simp
  | some held =>
    obtain ⟨-, -, isYear, isMonth, isDay⟩ := Date.parts_of_ofYearMonthDay? made
    have agrees : (ofDate year month day).agreeWith held = true := by
      simp [agreeWith, dateComponents, ofDate, read_note, empty, Date.component?, isYear, isMonth,
        isDay]
    simp [agrees]

/-- What is taken note of after a fraction of a second, if there is one. -/
def noteFraction (fields : Fields) : Option Nat → Fields
  | some nano => fields.note .nano nano
  | none => fields

/-- What is taken note of after a clock reading. -/
def noteClock (fields : Fields) (hour minute second : Nat) (nano : Option Nat) : Fields :=
  (((fields.noteHour hour).note .minute minute).note .second second).noteFraction nano

theorem toDate_noteClock {hour minute second : Nat} {nano : Option Nat} :
    (fields.noteClock hour minute second nano).toDate = fields.toDate := by
  cases nano <;>
    simp only [noteClock, noteHour, noteFraction] <;>
    repeat rw [toDate_note (by decide)]

/-- The time of day is the clock reading that was noted. -/
theorem toClock_noteClock (noNano : fields.read .nano = none) {hour minute second : Nat}
    {nano : Option Nat} {clock : Clock} :
    (fields.noteClock hour minute second nano).toClock = .ok clock ↔
      Rfc3339.clock? hour minute second (nano.getD 0) = some clock := by
  have isHour : ((hour : Int) / 12 * 12 + hour % 12).toNat = hour := by omega
  cases nano <;>
  · simp only [toClock, noteClock, noteHour, noteFraction, read_note, reduceCtorEq, ↓reduceIte,
      Option.isNone_some, Bool.false_eq_true, noNano, Option.isSome_none, false_and,
      Option.getD_some, Option.getD_none, Int.toNat_natCast, Int.toNat_zero, isHour, Nat.add_zero,
      Rfc3339.clock?]
    generalize (if second = 60 then _ else _) = made
    cases made <;> simp

theorem read_noteClock (outside : component ∉ clockComponents) {hour minute second : Nat}
    {nano : Option Nat} :
    (fields.noteClock hour minute second nano).read component = fields.read component := by
  simp only [clockComponents, List.mem_cons, List.not_mem_nil, or_false, not_or] at outside
  cases nano <;> simp [noteClock, noteHour, noteFraction, read_note, outside]

/-- Without a count of seconds a wall time is a date and a time of day. -/
theorem toWallTime?_eq_some_iff (noCount : fields.read .timestamp = none) {offset : Int}
    {wall : WallTime} : fields.toWallTime? offset = some wall ↔
      fields.toDate = .ok wall.date ∧ fields.toClock = .ok wall.clock := by
  obtain ⟨date, clock⟩ := wall
  cases isDate : fields.toDate with
  | error gap =>
    cases gap <;> cases isClock : fields.toClock with
    | error other => cases other <;> simp [toWallTime?, isDate, isClock, noCount]
    | ok => simp [toWallTime?, isDate, isClock, noCount]
  | ok =>
    cases isClock : fields.toClock with
    | error gap => cases gap <;> simp [toWallTime?, isDate, isClock, noCount]
    | ok => simp [toWallTime?, isDate, isClock, noCount]

/-- The instant that a wall time with an offset is. -/
theorem toInstant?_eq_some_iff {offset : Int} (isOffset : fields.read .offset = some offset)
    {instant : Instant} : fields.toInstant? = some instant ↔
      ∃ wall, fields.toWallTime? offset = some wall ∧ (-86400 < offset ∧ offset < 86400) ∧
        wall.atOffset? offset = some instant := by
  simp only [toInstant?, isOffset, Option.bind_eq_bind, Option.bind_some,
    Option.bind_eq_some_iff]
  refine exists_congr fun wall => and_congr_right fun _ => ?_
  by_cases small : -86400 < offset ∧ offset < 86400 <;> simp [guard, small]

/-- The wall time of a date and a clock reading that were noted. -/
theorem toWallTime?_noteClock {year month day hour minute second : Nat} {nano : Option Nat}
    {offset : Int} {wall : WallTime} :
    ((ofDate year month day).noteClock hour minute second nano).toWallTime? offset = some wall ↔
      Date.ofYearMonthDay? year month day = some wall.date ∧
        Rfc3339.clock? hour minute second (nano.getD 0) = some wall.clock := by
  have noCount : ((ofDate year month day).noteClock hour minute second nano).read .timestamp =
      none := read_noteClock (by decide)
  rw [toWallTime?_eq_some_iff noCount, toDate_noteClock, toDate_ofDate_eq_ok, toClock_noteClock rfl]

/-- The instant of a date, a clock reading and an offset that were noted. -/
theorem toInstant?_note_offset {year month day hour minute second : Nat} {nano : Option Nat}
    {seconds : Int} {instant : Instant} :
    (((ofDate year month day).noteClock hour minute second nano).note .offset seconds).toInstant? =
        some instant ↔
      ∃ wall : WallTime, (Date.ofYearMonthDay? year month day = some wall.date ∧
        Rfc3339.clock? hour minute second (nano.getD 0) = some wall.clock) ∧
        (-86400 < seconds ∧ seconds < 86400) ∧ wall.atOffset? seconds = some instant := by
  refine (toInstant?_eq_some_iff rfl).trans ?_
  refine exists_congr fun wall => and_congr_left fun _ => ?_
  have noCount : (((ofDate year month day).noteClock hour minute second nano).note .offset
      seconds).read .timestamp = none := read_noteClock (by decide)
  rw [toWallTime?_eq_some_iff noCount, toDate_note (by decide), toDate_noteClock,
    toDate_ofDate_eq_ok]
  exact and_congr_right fun _ => toClock_noteClock rfl

end Fields

end Intake
