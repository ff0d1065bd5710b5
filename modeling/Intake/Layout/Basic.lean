import Intake.Calendar.Zone
import Intake.Layout.Pattern
import Intake.Layout.Rfc2822
import Intake.Layout.Rfc3339

/-!
# Layouts

A layout is one way of writing a date-time: a standard form, or a pattern. What a pattern mentions
decides whether it carries its own offset, needs a zone, or names a day alone.
-/

namespace Intake

/-- One way of writing a date-time. -/
inductive Layout where
  | rfc3339
  | rfc2822
  /-- A pattern with an offset of its own. -/
  | zoned (pattern : String)
  /-- A pattern with a date and a time, read in a zone. -/
  | naive (pattern : String)
  /-- A pattern with a date, which stands for its midnight in a zone. -/
  | date (pattern : String)
  deriving DecidableEq, Repr

namespace Layout

/-- The text `part` occurs in a text. -/
def occurs (part : List Char) : List Char → Bool
  | [] => part.isEmpty
  | c :: rest => part.isPrefixOf (c :: rest) || occurs part rest

/-- The specifiers that give a pattern its own offset. -/
def offsetMarks : List String := ["%z", "%:z", "%::z", "%#z"]

/-- The specifiers that give a pattern a time of day. -/
def timeMarks : List String := ["%H", "%I", "%T", "%R", "%k", "%l"]

/-- The layout of a configured text: the name of a standard form in any case, or a pattern. -/
def ofText (text : String) : Layout :=
  let lower := String.ofList (text.toList.map Char.toLower)
  if lower = "rfc3339" then rfc3339
  else if lower = "rfc2822" then rfc2822
  else if offsetMarks.any fun mark => occurs mark.toList text.toList then zoned text
  else if timeMarks.any fun mark => occurs mark.toList text.toList then naive text
  else date text

/-- The text that a layout is configured with. -/
def name : Layout → String
  | rfc3339 => "rfc3339"
  | rfc2822 => "rfc2822"
  | zoned pattern | naive pattern | date pattern => pattern

/-- The instant that a value stands for under a layout, with wall times read in `zone`. -/
def read? (layout : Layout) (zone : Zone) (value : String) : Option Instant :=
  match layout with
  | rfc3339 => (Rfc3339.instant value).toOption
  | rfc2822 => Rfc2822.instant? value
  | zoned pattern => (Pattern.read? pattern value).bind (·.toInstant?)
  | naive pattern => do
    let fields ← Pattern.read? pattern value
    let wall ← fields.toWallTime? 0
    zone.localize? wall
  | date pattern => do
    let fields ← Pattern.read? pattern value
    let date ← fields.toDate.toOption
    zone.localize? { date := date, clock := Clock.midnight }

/-- The layouts tried where none are configured. Numeric forms such as `01/02/2021` are left out:
whether they start with the day or the month depends on who writes them. -/
def defaults : List Layout :=
  ["rfc3339",
    "%Y-%m-%dT%H:%M:%S%.f%z",
    "%Y-%m-%d %H:%M:%S%.f%:z",
    "%Y-%m-%d %H:%M:%S%.f %z",
    "%Y-%m-%dT%H:%M:%S%.f",
    "%Y-%m-%d %H:%M:%S%.f",
    "%Y/%m/%d %H:%M:%S%.f",
    "%d/%b/%Y:%H:%M:%S %z",
    "rfc2822",
    "%Y-%m-%d",
    "%Y/%m/%d",
    "%d-%b-%Y"].map ofText

end Layout

end Intake
