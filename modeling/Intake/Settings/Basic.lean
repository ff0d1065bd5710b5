import Intake.Calendar.Zone
import Intake.Column.Basic
import Intake.Failure
import Intake.Record.Context

/-!
# Settings

How date-times are read, and which tables exist with their columns and the patterns for new fields.
-/

namespace Intake

/-- The definition of a table. -/
structure TableSettings where
  name : String
  /-- Only fields with this pattern may become columns. -/
  allow : Option String := none
  /-- Fields with this pattern never become columns. -/
  deny : Option String := none
  /-- The columns that the table has. -/
  columns : List Column := []
  deriving DecidableEq

/-- A configuration. -/
structure Settings where
  /-- The unit of numeric timestamps. -/
  unit : TimeUnit := .second
  /-- The zone of wall times. -/
  zone : Zone := .utc
  /-- The RFC 3339 text of what stands for a date-time that cannot be read. -/
  epoch : Option String := none
  /-- The layouts that replace the default ones. -/
  layouts : Option (List String) := none
  tables : List TableSettings := []
  deriving DecidableEq

/-- The zone that a text names on a host with some rule, or the failure that quotes the text. -/
def Zone.parse (rule : DaylightRule) (text : String) : Except Failure Zone :=
  match Zone.ofText? rule text with
  | some zone => .ok zone
  | none => .error (.zone text)

namespace Settings

/-- The first table with a name. -/
def table (settings : Settings) (name : String) : Except Failure TableSettings :=
  match settings.tables.find? fun table => table.name = name with
  | some table => .ok table
  | none => .error (.unknownTable name)

/-- The instant of an epoch text; the start of 1970 where there is none. -/
def epochOf (text : Option String) : Except Failure Instant :=
  match text with
  | none => .ok .epoch
  | some text =>
    match Rfc3339.instant text with
    | .ok instant => .ok instant
    | .error fault => .error (.setting "epoch_sentinel" fault.message)

/-- The layouts in force. -/
def layoutList (settings : Settings) : List Layout :=
  match settings.layouts with
  | some texts => texts.map Layout.ofText
  | none => Layout.defaults

/-- The context that records are read in. -/
def context (settings : Settings) : Except Failure ReadContext := do
  let epoch ← epochOf settings.epoch
  pure
    { unit := settings.unit
      epoch := epoch
      reader := { layouts := settings.layoutList, zone := settings.zone } }

end Settings

end Intake
