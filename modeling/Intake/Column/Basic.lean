import Intake.Calendar.Instant
import Intake.Column.FieldType
import Intake.Json.Basic

/-!
# Columns and their values
-/

namespace Intake

/-- A column of a table. -/
structure Column where
  /-- The name of the column in the store. -/
  name : String
  /-- The record field it is read from, where the name differs. -/
  source : Option String := none
  type : FieldType
  /-- The column accepts null. -/
  nullable : Bool := false
  deriving DecidableEq, Repr

/-- The record field that a column is read from. -/
def Column.sourceKey (column : Column) : String := column.source.getD column.name

/-- Values of one type in order. -/
inductive ColumnArray where
  | ints (values : List Int)
  | floats (values : List Float)
  | strings (values : List String)
  | dateTimes (values : List Instant)

namespace ColumnArray

/-- The number of values. -/
def size : ColumnArray → Nat
  | ints values => values.length
  | floats values => values.length
  | strings values => values.length
  | dateTimes values => values.length

/-- The type of the values. -/
def element : ColumnArray → ScalarType
  | ints _ => .int
  | floats _ => .float
  | strings _ => .string
  | dateTimes _ => .dateTime

end ColumnArray

/-- A value ready to be stored in a column. -/
inductive ColumnValue where
  | null
  | int (value : Int)
  | float (value : Float)
  | string (value : String)
  | dateTime (value : Instant)
  | array (values : ColumnArray)

namespace ColumnValue

/-- The value is null. -/
def isNull : ColumnValue → Bool
  | null => true
  | _ => false

/-- A value or null. -/
def ofOption {α : Type} (wrap : α → ColumnValue) : Option α → ColumnValue
  | some value => wrap value
  | none => null

end ColumnValue

/-- The JSON form of an instant. -/
def Instant.toJson (instant : Instant) : Json := .string instant.written

/-- The JSON form of a double. Doubles that are not finite become null. -/
def floatToJson (value : Float) : Json := .ofOption .number (Number.ofDouble? value)

/-- The JSON form of an array. -/
def ColumnArray.toJson : ColumnArray → Json
  | ints values => .array (values.map Json.ofInt)
  | floats values => .array (values.map floatToJson)
  | strings values => .array (values.map Json.string)
  | dateTimes values => .array (values.map Instant.toJson)

/-- The JSON form of a value. -/
def ColumnValue.toJson : ColumnValue → Json
  | null => .null
  | int value => .ofInt value
  | float value => floatToJson value
  | string value => .string value
  | dateTime value => value.toJson
  | array values => values.toJson

/-- The JSON form of a column. The source is left out where the column has none. -/
def Column.toJson (column : Column) : Json :=
  .ofMembers <|
    [("name", .string column.name)] ++
    (match column.source with
      | some source => [("source", .string source)]
      | none => []) ++
    [("type", .string column.type.name), ("nullable", .bool column.nullable)]

end Intake
