import Intake.Layout.Scan

/-!
# RFC 3339 date-times

The strict form `YYYY-MM-DDTHH:MM:SS`, an optional fraction, and an offset. Reading fails with the
first thing that is wrong: the date is judged as soon as its digits are read, the time after the
fraction, the offset at the end.
-/

namespace Intake

namespace Rfc3339

/-- What is wrong with a text that is no RFC 3339 date-time. -/
inductive Fault where
  /-- The text ends too early. -/
  | tooShort
  /-- A character stands where it must not. -/
  | invalid
  /-- There is no such date, time or offset. -/
  | outOfRange
  /-- Text follows the date-time. -/
  | trailing
  deriving DecidableEq, Repr

/-- The description of a fault. -/
def Fault.message : Fault → String
  | tooShort => "premature end of input"
  | invalid => "input contains invalid characters"
  | outOfRange => "input is out of range"
  | trailing => "trailing input"

/-- A reader that fails with a fault. -/
abbrev Reader := StateT (List Char) (Except Fault)

/-- The fixed part of the text is known to be long enough, so a missing character is an invalid
one. -/
def oneOf (accepts : Char → Bool) : Reader Char := fun text =>
  match text with
  | c :: rest => if accepts c then .ok (c, rest) else .error .invalid
  | [] => .error .invalid

/-- A number of exactly so many digits. -/
def digits : Nat → Nat → Reader Nat
  | 0, value => pure value
  | width + 1, value => do
    let c ← oneOf isDigit
    digits width (value * 10 + digitValue c)

/-- Two digits near the end of the text, where it may be too short. -/
def lastTwoDigits : Reader (Nat × Nat) := fun text =>
  match text with
  | [] => .error .tooShort
  | [c] => .error (if c.utf8Size < 2 then .tooShort else .invalid)
  | a :: b :: rest =>
    if isDigit a ∧ isDigit b then .ok ((digitValue a, digitValue b), rest) else .error .invalid

/-- An optional fraction in nanoseconds. -/
def fraction : Reader Nat := fun text =>
  match text with
  | '.' :: rest =>
    match Scanner.fraction rest with
    | some (nano, rest) => .ok (nano, rest)
    | none => .error (if rest = [] then .tooShort else .invalid)
  | _ => .ok (0, text)

/-- The offset: `Z`, or a sign, hours, a colon and minutes. -/
def offset : Reader Int := fun text =>
  match text with
  | [] => .error .tooShort
  | 'Z' :: rest | 'z' :: rest => .ok (0, rest)
  | _ =>
    match Scanner.offsetSign true text with
    | none => .error .invalid
    | some (negative, text) => do
      let ((h1, h2), text) ← lastTwoDigits text
      match text with
      | [] => .error .tooShort
      | ':' :: text =>
        let ((m1, m2), text) ← lastTwoDigits text
        if 5 < m1 then .error .outOfRange
        else .ok (Scanner.signed negative ((h1 * 10 + h2) * 3600 + (m1 * 10 + m2) * 60), text)
      | _ => .error .invalid

/-- The greatest offset, 23:59. -/
def greatestOffset : Int := (23 * 60 + 59) * 60

/-- The clock reading of an hour, a minute, a second and a fraction; second 60 is a leap second in
any minute. -/
def clock? (hour minute second nano : Nat) : Option Clock :=
  if second = 60 then Clock.ofParts? hour minute 59 (nanosPerSecond + nano)
  else Clock.ofParts? hour minute second nano

/-- The date-time at the front of a text, with its offset. -/
def reader : Reader (WallTime × Int) := do
  let year ← digits 4 0
  let _ ← oneOf (· == '-')
  let month ← digits 2 0
  let _ ← oneOf (· == '-')
  let day ← digits 2 0
  let some date := Date.ofYearMonthDay? year month day | throw .outOfRange
  let _ ← oneOf fun c => c == 't' || c == 'T' || c == ' '
  let hour ← digits 2 0
  let _ ← oneOf (· == ':')
  let minute ← digits 2 0
  let _ ← oneOf (· == ':')
  let second ← digits 2 0
  let nano ← fraction
  let some clock := clock? hour minute second nano | throw .outOfRange
  let offset ← offset
  pure ({ date := date, clock := clock }, offset)

/-- The wall time and the offset of an RFC 3339 text. -/
def read (text : String) : Except Fault (WallTime × Int) :=
  if text.utf8ByteSize < 19 then .error .tooShort
  else
    match reader text.toList with
    | .error fault => .error fault
    | .ok (result, []) =>
      if -greatestOffset ≤ result.2 ∧ result.2 ≤ greatestOffset then .ok result
      else .error .outOfRange
    | .ok (_, _ :: _) => .error .trailing

/-- The instant of an RFC 3339 text. -/
def instant (text : String) : Except Fault Instant := do
  let (wall, offset) ← read text
  match wall.atOffset? offset with
  | some instant => .ok instant
  | none => .error .outOfRange

end Rfc3339

end Intake
