import Intake.Calendar.Instant
import Intake.Number.Basic

/-!
# Units of numeric timestamps

Integral numbers become the instant that many units after the epoch, exactly. Other numbers are
taken to seconds first and keep nanosecond precision.
-/

namespace Intake

/-- The unit of a numeric timestamp. -/
inductive TimeUnit where
  | second | millisecond | microsecond | nanosecond
  deriving DecidableEq, Repr, Inhabited

namespace TimeUnit

/-- The name of a unit. -/
def name : TimeUnit → String
  | second => "second"
  | millisecond => "millisecond"
  | microsecond => "microsecond"
  | nanosecond => "nanosecond"

/-- The short name of a unit. -/
def shortName : TimeUnit → String
  | second => "s"
  | millisecond => "ms"
  | microsecond => "us"
  | nanosecond => "ns"

/-- All units. -/
def all : List TimeUnit := [second, millisecond, microsecond, nanosecond]

/-- The unit with a name or a short name. -/
def ofName? (text : String) : Option TimeUnit :=
  all.find? fun unit => text = unit.name ∨ text = unit.shortName

theorem ofName?_name (unit : TimeUnit) : ofName? unit.name = some unit := by
  cases unit <;> decide

/-- Nanoseconds in a unit. -/
def nanos : TimeUnit → Nat
  | second => 1000000000
  | millisecond => 1000000
  | microsecond => 1000
  | nanosecond => 1

/-- Seconds in a unit, as the nearest double. -/
def seconds : TimeUnit → Float
  | second => 1.0
  | millisecond => 1e-3
  | microsecond => 1e-6
  | nanosecond => 1e-9

/-- The instant a whole number of units after the epoch. -/
def instantOfInt? (unit : TimeUnit) (count : Int) : Option Instant :=
  Instant.ofNanos? (count * unit.nanos)

/-- The instant of a Unix timestamp, if it is supported. A leap second is one only if it follows the
last second of a minute. -/
def instantOfTimestamp? (seconds : Int) (nano : Nat) : Option Instant := do
  guard (nano < nanosPerSecond ∨ seconds % 60 = 59)
  Instant.ofSeconds? seconds nano

/-- The instant a number of seconds after the epoch, to the nearest nanosecond. -/
def instantOfSeconds? (seconds : Float) : Option Instant := do
  let exact ← BinaryValue.ofFloat? seconds
  let whole := exact.floor
  guard (seconds.abs < 9223372036854775808.0)
  let fraction ← BinaryValue.ofFloat? ((seconds - Float.ofInt whole) * 1e9)
  let nanos := fraction.round.toNat
  if nanosPerSecond ≤ nanos then instantOfTimestamp? (whole + 1) (nanos - nanosPerSecond)
  else instantOfTimestamp? whole nanos

/-- The instant a number of units after the epoch. -/
def toInstant? (unit : TimeUnit) (count : Float) : Option Instant := do
  let exact ← BinaryValue.ofFloat? count
  match exact.integer? with
  | some integer =>
    if -0x8000000000000000 < integer ∧ integer < 0x8000000000000000 then unit.instantOfInt? integer
    else instantOfSeconds? (count * unit.seconds)
  | none => instantOfSeconds? (count * unit.seconds)

end TimeUnit

end Intake
