import Intake.Cli.Invocation
import Intake.Column.Basic
import Intake.Failure
import Intake.Json.Writer
import Intake.Layout.Basic
import Intake.Schema.Discovery

/-!
# Messages

What the program prints: JSON objects with a type, one for each result.
-/

namespace Intake

namespace Cli

/-- A message. -/
inductive Message where
  /-- The fields that a table does not have, with the numbers of records and of other lines. -/
  | newFields (table : String) (records malformed : Nat) (fields : List NewField)
  /-- The values of a table's columns for one record. -/
  | row (table : String) (values : List (String × ColumnValue))
  /-- The field types of the record on a line. -/
  | recordTypes (line : Nat) (fields : List (String × FieldType))
  /-- A line is passed over. -/
  | skipped (line : Nat) (cause : Failure)
  /-- A date-time was read by a layout. -/
  | matched (value : String) (instant : Instant) (layout : Layout) (zone : Zone)
  /-- No layout reads the value. -/
  | unmatched (value : String)
  /-- The layouts in force. -/
  | layouts (zone : Zone) (inForce : List Layout)

namespace Message

/-- The JSON form of a new field. -/
def ofField (field : NewField) : Json :=
  .ofMembers
    [("name", .string field.name), ("type", .string field.type.name),
      ("store_type", .ofOption Json.string field.type.storeType?)]

/-- The JSON form of a message. -/
def toJson : Message → Json
  | newFields table records malformed fields =>
    .ofMembers
      [("type", .string "NEW_FIELDS"), ("table", .string table), ("records", .ofInt records),
        ("malformed", .ofInt malformed), ("fields", .array (fields.map ofField))]
  | row table values =>
    let members := values.map fun value => (value.1, value.2.toJson)
    .ofMembers [("type", .string "ROW"), ("table", .string table), ("row", .ofMembers members)]
  | recordTypes line fields =>
    let members := fields.map fun field => (field.1, Json.string field.2.name)
    .ofMembers
      [("type", .string "RECORD_TYPES"), ("line", .ofInt line), ("fields", .ofMembers members)]
  | skipped line cause =>
    let text := "Skipping malformed record on line " ++ decimal line ++ ": " ++ cause.message
    .ofMembers
      [("type", .string "LOG"),
        ("log", .ofMembers [("level", .string "WARN"), ("message", .string text)])]
  | matched value instant layout zone =>
    .ofMembers
      [("type", .string "DATETIME"), ("value", .string value), ("matched", .bool true),
        ("layout", .string layout.name), ("timezone", .string zone.name),
        ("utc", .string instant.writtenWithOffset), ("unix_millis", .ofInt instant.toMillis)]
  | unmatched value =>
    .ofMembers
      [("type", .string "DATETIME"), ("value", .string value), ("matched", .bool false)]
  | layouts zone inForce =>
    .ofMembers
      [("type", .string "LAYOUTS"), ("timezone", .string zone.name),
        ("layouts", .array (inForce.map fun layout => .string layout.name))]

/-- The text of a message. -/
def text (format : Format) (message : Message) : String :=
  match format with
  | .json => message.toJson.compact
  | .pretty => message.toJson.pretty 0

end Message

end Cli

end Intake
