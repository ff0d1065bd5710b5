import Intake.Calendar.Daylight
import Intake.Text.Blank

/-!
# Time zones

A zone says which instant a wall time stands for. The zone of a host follows the host's yearly rule
of standard and daylight time; the clock is compared in whole seconds.
-/

namespace Intake

/-- A difference from universal time, of less than a day. -/
structure UtcOffset where
  /-- Seconds ahead of universal time. -/
  seconds : Int
  inRange : -86400 < seconds ∧ seconds < 86400 := by decide
  deriving DecidableEq

namespace UtcOffset

/-- The offset of a number of seconds, if it is less than a day. -/
def ofSeconds? (seconds : Int) : Option UtcOffset :=
  if h : -86400 < seconds ∧ seconds < 86400 then some ⟨seconds, h⟩ else none

/-- The written form: a sign, hours and minutes, and the seconds when there are any. -/
def written (offset : UtcOffset) : String :=
  let size := offset.seconds.natAbs
  (if offset.seconds < 0 then "-" else "+") ++ String.ofList (fixedDigits 2 (size / 3600)) ++ ":" ++
    String.ofList (fixedDigits 2 (size / 60 % 60)) ++
    (if size % 60 = 0 then "" else ":" ++ String.ofList (fixedDigits 2 (size % 60)))

end UtcOffset

/-- How wall times without an offset of their own are read. -/
inductive Zone where
  /-- Universal time. -/
  | utc
  /-- The zone of a host, with its yearly rule. -/
  | host (rule : DaylightRule)
  /-- A constant offset. -/
  | fixed (offset : UtcOffset)
  deriving DecidableEq

namespace Zone

instance : Inhabited Zone := ⟨utc⟩

/-- The instant that a wall time stands for, if there is one. -/
def localize? (zone : Zone) (wall : WallTime) : Option Instant :=
  match zone with
  | utc => some wall.atUtc
  | host rule => (rule.offsetFor? wall).bind wall.atOffset?
  | fixed offset => wall.atOffset? offset.seconds

/-- The offset that four digits `HHMM` name. -/
def offsetOfDigits? (negative : Bool) : List Char → Option UtcOffset
  | [h1, h2, m1, m2] =>
    if [h1, h2, m1, m2].all isDigit then
      let hours := digitValue h1 * 10 + digitValue h2
      let minutes := digitValue m1 * 10 + digitValue m2
      if minutes < 60 then
        let size : Int := hours * 3600 + minutes * 60
        UtcOffset.ofSeconds? (if negative then -size else size)
      else none
    else none
  | _ => none

/-- The zone that a text names on a host with some rule: `UTC`, `Z` or nothing, `Local`, or an
offset. Case, blanks around the name and colons in the offset make no difference. -/
def ofText? (rule : DaylightRule) (text : String) : Option Zone :=
  let name := trim text.toList
  let lower := String.ofList (name.map Char.toLower)
  if lower = "utc" ∨ lower = "z" ∨ lower = "" then some utc
  else if lower = "local" then some (host rule)
  else
    match name with
    | '+' :: rest => (offsetOfDigits? false (rest.filter (· != ':'))).map fixed
    | '-' :: rest => (offsetOfDigits? true (rest.filter (· != ':'))).map fixed
    | _ => none

/-- The name of a zone, which `ofText?` reads back. -/
def name : Zone → String
  | utc => "UTC"
  | host _ => "Local"
  | fixed offset => offset.written

end Zone

end Intake
