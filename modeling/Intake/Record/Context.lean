import Intake.Calendar.TimeUnit
import Intake.Layout.Reader
import Intake.Json.Writer

/-!
# How values of records are read

The settings shared by all records of a run, and the reading of one value as an integer, a text or
an instant.
-/

namespace Intake

/-- The settings that records are read with. -/
structure ReadContext where
  /-- The unit of numeric timestamps. -/
  unit : TimeUnit := .second
  /-- What stands for a date-time that must not be null and cannot be read. -/
  epoch : Instant := .epoch
  /-- The layouts of textual date-times. -/
  reader : LayoutReader := {}

/-- A computation that reads and updates the remembered layouts. -/
abbrev Remembering := StateM LayoutCache

namespace Json

/-- The text of a value: strings as they are, anything else in compact form. -/
def render : Json → String
  | string value => value
  | value => value.compact

/-- An integer: a boolean counts as 1 or 0. -/
def toInt? : Json → Option Int
  | bool value => some (if value then 1 else 0)
  | number value => value.toInt?
  | _ => none

/-- A double: numbers only. -/
def toFloat? : Json → Option Float
  | number value => some value.toFloat
  | _ => none

/-- A text: everything but null has one. -/
def toText? : Json → Option String
  | null => none
  | value => some value.render

/-- An instant: a number counts units since the epoch, a string is read by the layouts, the one
remembered for the field first. -/
def toInstant? (context : ReadContext) (key : String) (value : Json) :
    Remembering (Option Instant) := fun cache =>
  match value with
  | number value => (context.unit.toInstant? value.toFloat, cache)
  | string value => if value = "" then (none, cache) else context.reader.readField cache key value
  | _ => (none, cache)

/-- A text is read by the layouts. -/
theorem toInstant?_string {context : ReadContext} {value : String} (given : value ≠ "")
    (key : String) (cache : LayoutCache) :
    (string value).toInstant? context key cache = context.reader.readField cache key value := by
  simp [toInstant?, given]

end Json

end Intake
