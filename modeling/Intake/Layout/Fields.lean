import Intake.Calendar.Instant

/-!
# Fields read from a date-time

Reading a date-time fills in components one by one, in any order and with any redundancy. A
component is checked against its range when it is read, a second reading must equal the first, and
a date is accepted only when it agrees with every component read.
-/

namespace Intake

/-- The components that a date-time can be written with. -/
inductive Component where
  | year | century | yearOfCentury | isoYear | isoYearOfCentury | quarter | month
  | weekFromSunday | weekFromMonday | isoWeek | weekday | ordinal | day
  | halfOfDay | hourOfHalf | minute | second | nano | timestamp | offset
  deriving DecidableEq, Repr

/-- The least and the greatest value of a component. Weekdays count from Monday. -/
def Component.range : Component → Int × Int
  | .year | .isoYear | .offset => (-0x80000000, 0x7FFFFFFF)
  | .century => (0, 0x7FFFFFFF)
  | .yearOfCentury | .isoYearOfCentury => (0, 99)
  | .quarter => (1, 4)
  | .month => (1, 12)
  | .weekFromSunday | .weekFromMonday => (0, 53)
  | .isoWeek => (1, 53)
  | .weekday => (0, 6)
  | .ordinal => (1, 366)
  | .day => (1, 31)
  | .halfOfDay => (0, 1)
  | .hourOfHalf => (0, 11)
  | .minute => (0, 59)
  | .second => (0, 60)
  | .nano => (0, 999999999)
  | .timestamp => (-0x8000000000000000, 0x7FFFFFFFFFFFFFFF)

/-- The components that a date determines. -/
def dateComponents : List Component :=
  [.year, .century, .yearOfCentury, .isoYear, .isoYearOfCentury, .quarter, .month,
    .weekFromSunday, .weekFromMonday, .isoWeek, .weekday, .ordinal, .day]

/-- The value that a date gives to a component. Years before year 0 have no century. -/
def Date.component? (date : Date) : Component → Option Int
  | .year => some date.year
  | .century => if 0 ≤ date.year then some (date.year / 100) else none
  | .yearOfCentury => if 0 ≤ date.year then some (date.year % 100) else none
  | .isoYear => some date.isoYear
  | .isoYearOfCentury => if 0 ≤ date.isoYear then some (date.isoYear % 100) else none
  | .quarter => some date.quarter
  | .month => some date.month
  | .weekFromSunday => some (date.weekFrom .sunday)
  | .weekFromMonday => some (date.weekFrom .monday)
  | .isoWeek => some date.isoWeek
  | .weekday => some date.weekday.index
  | .ordinal => some date.ordinal
  | .day => some date.dayOfMonth
  | _ => none

/-- Why components do not give a date or a time. -/
inductive Gap where
  /-- Too little was read. -/
  | incomplete
  /-- What was read is no date or no time. -/
  | contradictory
  deriving DecidableEq, Repr

/-- The components read so far. -/
structure Fields where
  read : Component → Option Int

namespace Fields

/-- Nothing has been read. -/
def empty : Fields := ⟨fun _ => none⟩

/-- Take note of a component, which must be in range and agree with an earlier reading. -/
def record? (fields : Fields) (component : Component) (value : Int) : Option Fields :=
  if component.range.1 ≤ value ∧ value ≤ component.range.2 then
    match fields.read component with
    | none => some ⟨fun other => if other = component then some value else fields.read other⟩
    | some earlier => if earlier = value then some fields else none
  else none

/-- Take note of an hour of the day, as a half of the day and an hour of that half. -/
def recordHour? (fields : Fields) (hour : Int) : Option Fields :=
  if 0 ≤ hour ∧ hour ≤ 23 then
    (fields.record? .halfOfDay (hour / 12)).bind (·.record? .hourOfHalf (hour % 12))
  else none

/-- Take note of an hour on a twelve-hour clock, where 12 comes before 1. -/
def recordHour12? (fields : Fields) (hour : Int) : Option Fields :=
  if 1 ≤ hour ∧ hour ≤ 12 then fields.record? .hourOfHalf (hour % 12) else none

/-- The year that a full year, a century and a year of the century name together. A year of the
century alone lies between 1970 and 2069. -/
def resolveYear (full century ofCentury : Option Int) : Except Gap (Option Int) :=
  match full, century, ofCentury with
  | full, none, none => .ok full
  | some year, century, ofCentury =>
    if 0 ≤ year ∧ century.getD (year / 100) = year / 100 ∧ ofCentury.getD (year % 100) = year % 100
    then .ok (some year) else .error .contradictory
  | none, some century, some ofCentury => .ok (some (century * 100 + ofCentury))
  | none, none, some ofCentury => .ok (some (ofCentury + if ofCentury < 70 then 2000 else 1900))
  | none, some _, none => .error .incomplete

/-- The date that the components name, by month and day, by the day of the year, by a week and a
weekday, or by an ISO week and a weekday, whichever comes first in this order. -/
def candidate (fields : Fields) : Except Gap (Option Date) := do
  let year ← resolveYear (fields.read .year) (fields.read .century) (fields.read .yearOfCentury)
  let isoYear ← resolveYear (fields.read .isoYear) none (fields.read .isoYearOfCentury)
  let weekday := (fields.read .weekday).map fun index => Weekday.ofIndex index.toNat
  match year, fields.read .month, fields.read .day with
  | some year, some month, some day => .ok (Date.ofYearMonthDay? year month.toNat day.toNat)
  | _, _, _ =>
  match year, fields.read .ordinal with
  | some year, some ordinal => .ok (Date.ofYearDay? year ordinal.toNat)
  | _, _ =>
  match year, fields.read .weekFromSunday, weekday with
  | some year, some week, some weekday => .ok (Date.ofWeekFrom? year .sunday week.toNat weekday)
  | _, _, _ =>
  match year, fields.read .weekFromMonday, weekday with
  | some year, some week, some weekday => .ok (Date.ofWeekFrom? year .monday week.toNat weekday)
  | _, _, _ =>
  match isoYear, fields.read .isoWeek, weekday with
  | some year, some week, some weekday => .ok (Date.ofIsoWeek? year week.toNat weekday)
  | _, _, _ => .error .incomplete

/-- Every component of a date that was read has the value it has on this date. -/
def agreeWith (fields : Fields) (date : Date) : Bool :=
  dateComponents.all fun component =>
    match fields.read component with
    | none => true
    | value => value == date.component? component

/-- The date that was read. -/
def toDate (fields : Fields) : Except Gap Date := do
  match ← fields.candidate with
  | some date => if fields.agreeWith date then .ok date else .error .contradictory
  | none => .error .contradictory

/-- The time of day that was read. The hour and the minute must be there; a fraction needs a
second; second 60 is the leap second after second 59. -/
def toClock (fields : Fields) : Except Gap Clock :=
  match fields.read .halfOfDay, fields.read .hourOfHalf, fields.read .minute with
  | some half, some hour, some minute =>
    let second := fields.read .second
    let nano := fields.read .nano
    if second.isNone ∧ nano.isSome then .error .incomplete
    else
      let whole := (second.getD 0).toNat
      let fraction := (nano.getD 0).toNat
      let clock :=
        if whole = 60 then
          Clock.ofParts? (half * 12 + hour).toNat minute.toNat 59 (nanosPerSecond + fraction)
        else Clock.ofParts? (half * 12 + hour).toNat minute.toNat whole fraction
      match clock with
      | some clock => .ok clock
      | none => .error .contradictory
  | _, _, _ => .error .incomplete

/-- The wall time a count of seconds after 1970 on a wall `offset` seconds ahead, with what was read
checked against it. A leap second may be counted as the second before or after it. -/
def ofTimestamp (fields : Fields) (timestamp offset : Int) : Option WallTime := do
  let total := timestamp + offset
  guard (total ≤ 0x7FFFFFFFFFFFFFFF)
  let shown := (← Instant.ofSeconds? total 0).toWallTime
  let leap := fields.read .second == some 60
  let shown ←
    if leap then
      if shown.clock.second = 59 then some shown
      else if shown.clock.second = 0 then (Instant.ofSeconds? (total - 1) 0).map (·.toWallTime)
      else none
    else some shown
  let fields ← if leap then some fields else fields.record? .second shown.clock.second
  let fields ← fields.record? .year shown.date.year
  let fields ← fields.record? .ordinal shown.date.ordinal
  let fields ← fields.recordHour? shown.clock.hour
  let fields ← fields.record? .minute shown.clock.minute
  match fields.toDate, fields.toClock with
  | .ok date, .ok clock => some { date := date, clock := clock }
  | _, _ => none

/-- The wall time that was read, for a wall `offset` seconds ahead of universal time. A count of
seconds must agree with date and clock, or stands in for them where they are incomplete. -/
def toWallTime? (fields : Fields) (offset : Int) : Option WallTime :=
  match fields.toDate, fields.toClock, fields.read .timestamp with
  | .ok date, .ok clock, none => some { date := date, clock := clock }
  | .ok date, .ok clock, some timestamp =>
    let wall : WallTime := { date := date, clock := clock }
    let counted := wall.seconds - offset
    if timestamp = counted ∨ (clock.isLeap ∧ timestamp = counted + 1) then some wall else none
  | .error .contradictory, _, _ => none
  | _, .error .contradictory, _ => none
  | _, _, some timestamp => fields.ofTimestamp timestamp offset
  | _, _, none => none

/-- The instant that was read together with its offset. A count of seconds needs no offset. -/
def toInstant? (fields : Fields) : Option Instant := do
  let offset ←
    match fields.read .offset, fields.read .timestamp with
    | some offset, _ => some offset
    | none, some _ => some 0
    | none, none => none
  let wall ← fields.toWallTime? offset
  guard (-86400 < offset ∧ offset < 86400)
  wall.atOffset? offset

end Fields

end Intake
