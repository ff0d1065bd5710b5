import Intake.Calendar.Date
import Intake.Text.Decimal

/-!
# Clock readings and instants

A clock reading is a second of the day with a nanosecond; nanoseconds from a whole second up stand
for a leap second that follows it. A wall time is a date with a clock reading, and says nothing of
where the wall is. An instant is a count of seconds and nanoseconds since 1970 in universal time.
-/

namespace Intake

/-- Nanoseconds in a second. -/
def nanosPerSecond : Nat := 1000000000

/-- Seconds in a day. -/
def secondsPerDay : Nat := 86400

/-- A time of day. -/
structure Clock where
  secondOfDay : Nat
  /-- Nanoseconds past the second; a whole second or more marks a leap second. -/
  nano : Nat
  second_lt : secondOfDay < secondsPerDay := by decide
  nano_lt : nano < 2 * nanosPerSecond := by decide
  deriving DecidableEq

namespace Clock

/-- The clock reading with an hour, a minute, a second and a nanosecond. A leap second is the
continuation of second 59. -/
def ofParts? (hour minute second nano : Nat) : Option Clock :=
  if h : hour < 24 ∧ minute < 60 ∧ second < 60 ∧ nano < 2 * nanosPerSecond ∧
      (nano < nanosPerSecond ∨ second = 59) then
    some
      { secondOfDay := hour * 3600 + minute * 60 + second
        nano := nano
        second_lt := by unfold secondsPerDay; omega
        nano_lt := h.2.2.2.1 }
  else none

/-- The first moment of the day. -/
def midnight : Clock := { secondOfDay := 0, nano := 0 }

def hour (clock : Clock) : Nat := clock.secondOfDay / 3600

def minute (clock : Clock) : Nat := clock.secondOfDay / 60 % 60

def second (clock : Clock) : Nat := clock.secondOfDay % 60

/-- The reading lies within a leap second. -/
def isLeap (clock : Clock) : Bool := nanosPerSecond ≤ clock.nano

end Clock

/-- What a calendar and a clock on the wall show. -/
structure WallTime where
  date : Date
  clock : Clock
  deriving DecidableEq

/-- The whole seconds from the start of 1970 on the same wall. -/
def WallTime.seconds (wall : WallTime) : Int :=
  wall.date.day * secondsPerDay + wall.clock.secondOfDay

/-- The first and the last second of the supported years. -/
def firstSecond : Int := firstDay * 86400
@[inherit_doc firstSecond]
def lastSecond : Int := lastDay * 86400 + 86399

/-- A moment in universal time. -/
structure Instant where
  /-- Whole seconds since the start of 1970. -/
  seconds : Int
  /-- Nanoseconds past the second; a whole second or more marks a leap second. -/
  nano : Nat
  inRange : firstSecond ≤ seconds ∧ seconds ≤ lastSecond := by decide
  nano_lt : nano < 2 * nanosPerSecond := by decide
  deriving DecidableEq

namespace Instant

@[ext] theorem ext {left right : Instant} (seconds : left.seconds = right.seconds)
    (nano : left.nano = right.nano) : left = right := by
  cases left; cases right; simp_all

/-- The start of 1970. -/
def epoch : Instant := { seconds := 0, nano := 0 }

instance : Inhabited Instant := ⟨epoch⟩

/-- The instant a number of seconds and nanoseconds after the epoch, if it is supported. -/
def ofSeconds? (seconds : Int) (nano : Nat) : Option Instant :=
  if h : (firstSecond ≤ seconds ∧ seconds ≤ lastSecond) ∧ nano < 2 * nanosPerSecond then
    some { seconds := seconds, nano := nano, inRange := h.1, nano_lt := h.2 }
  else none

/-- The instant a whole number of nanoseconds after the epoch, if it is supported. -/
def ofNanos? (nanos : Int) : Option Instant :=
  ofSeconds? (nanos / nanosPerSecond) (nanos % nanosPerSecond).toNat

/-- The nanoseconds from the epoch to an instant. -/
def toNanos (instant : Instant) : Int := instant.seconds * nanosPerSecond + instant.nano

/-- The milliseconds from the epoch, rounded down. -/
def toMillis (instant : Instant) : Int := instant.seconds * 1000 + (instant.nano / 1000000 : Nat)

/-- What a wall in universal time shows at an instant. -/
def toWallTime (instant : Instant) : WallTime where
  date := ⟨instant.seconds / 86400, by
    have := instant.inRange
    unfold firstSecond lastSecond at this
    constructor <;> omega⟩
  clock :=
    { secondOfDay := (instant.seconds % 86400).toNat
      nano := instant.nano
      second_lt := by unfold secondsPerDay; omega
      nano_lt := instant.nano_lt }

end Instant

/-- The instant at which a wall that runs `offset` seconds ahead of universal time shows `wall`. -/
def WallTime.atOffset? (wall : WallTime) (offset : Int) : Option Instant :=
  Instant.ofSeconds? (wall.seconds - offset) wall.clock.nano

/-- A wall in universal time shows every supported wall time. -/
def WallTime.atUtc (wall : WallTime) : Instant where
  seconds := wall.seconds
  nano := wall.clock.nano
  inRange := by
    have day := wall.date.inRange
    have second := wall.clock.second_lt
    unfold secondsPerDay at second
    unfold WallTime.seconds firstSecond lastSecond secondsPerDay
    constructor <;> omega
  nano_lt := wall.clock.nano_lt

namespace WallTime

/-- Seconds and the date agree on the day. -/
theorem seconds_div (wall : WallTime) : wall.seconds / 86400 = wall.date.day := by
  have second := wall.clock.second_lt
  unfold secondsPerDay at second
  unfold seconds secondsPerDay
  omega

/-- An instant shows at universal time what it was made from. -/
theorem toWallTime_atUtc (wall : WallTime) : wall.atUtc.toWallTime = wall := by
  have second := wall.clock.second_lt
  unfold secondsPerDay at second
  obtain ⟨⟨day, dayRange⟩, ⟨secondOfDay, nano, second_lt, nano_lt⟩⟩ := wall
  unfold atUtc Instant.toWallTime seconds secondsPerDay
  simp only [WallTime.mk.injEq, Date.mk.injEq, Clock.mk.injEq]
  simp only at second
  exact ⟨by omega, by omega, trivial⟩

end WallTime

namespace Instant

/-- An instant is recovered from what it shows at universal time. -/
theorem atUtc_toWallTime (instant : Instant) : instant.toWallTime.atUtc = instant := by
  obtain ⟨seconds, nano, inRange, nano_lt⟩ := instant
  apply Instant.ext
  · simp only [WallTime.atUtc, WallTime.seconds, toWallTime, secondsPerDay]
    omega
  · rfl

end Instant

/-!
## The written form

A date-time is written with a `T` between date and clock. The fraction of the second is left out
when it is zero and has 3, 6 or 9 digits otherwise; a leap second is written as second 60. Years
outside 0 to 9999 carry a sign.
-/

/-- The written year: four digits, or a sign and at least four digits. -/
def writtenYear (year : Int) : String :=
  if 0 ≤ year ∧ year ≤ 9999 then String.ofList (fixedDigits 4 year.toNat)
  else
    let size := year.natAbs
    (if year < 0 then "-" else "+") ++
      (if size ≤ 9999 then String.ofList (fixedDigits 4 size) else decimal size)

/-- The written fraction of a second: the shortest of 0, 3, 6 and 9 digits that is exact. -/
def writtenFraction (nano : Nat) : String :=
  if nano = 0 then ""
  else if nano % 1000000 = 0 then "." ++ String.ofList (fixedDigits 3 (nano / 1000000))
  else if nano % 1000 = 0 then "." ++ String.ofList (fixedDigits 6 (nano / 1000))
  else "." ++ String.ofList (fixedDigits 9 nano)

/-- The written form of a date. -/
def Date.written (date : Date) : String :=
  writtenYear date.year ++ "-" ++ String.ofList (fixedDigits 2 date.month) ++ "-" ++
    String.ofList (fixedDigits 2 date.dayOfMonth)

/-- The written form of a clock reading. -/
def Clock.written (clock : Clock) : String :=
  let second := if clock.isLeap then clock.second + 1 else clock.second
  let nano := if clock.isLeap then clock.nano - nanosPerSecond else clock.nano
  String.ofList (fixedDigits 2 clock.hour) ++ ":" ++ String.ofList (fixedDigits 2 clock.minute) ++
    ":" ++ String.ofList (fixedDigits 2 second) ++ writtenFraction nano

/-- The written form of a wall time. -/
def WallTime.written (wall : WallTime) : String := wall.date.written ++ "T" ++ wall.clock.written

/-- The written form of an instant, in universal time with the mark `Z`. -/
def Instant.written (instant : Instant) : String := instant.toWallTime.written ++ "Z"

/-- The written form of an instant, in universal time with its offset spelled out. -/
def Instant.writtenWithOffset (instant : Instant) : String :=
  instant.toWallTime.written ++ "+00:00"

end Intake
