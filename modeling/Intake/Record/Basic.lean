import Intake.Column.Basic
import Intake.Record.Context

/-!
# Typed access to the fields of a record

Every getter has an answer: a field that is missing, null or of the wrong kind gives null where null
is allowed, and the zero of its type elsewhere. Reading a date-time may change which layout is
remembered for the field, and nothing else is ever changed.
-/

namespace Intake

/-- A JSON object with its members in ascending order. -/
abbrev Record := NameMap Json

/-- A mistake of the caller, not of the data. -/
inductive Misuse where
  /-- Arrays cannot have elements of this type. -/
  | unsupportedElement (type : FieldType)
  /-- More workers were asked for than can be counted. -/
  | tooManyWorkers
  /-- More room was asked for than can be addressed. -/
  | noRoom
  deriving DecidableEq, Repr

/-- The description of a misuse. -/
def Misuse.message : Misuse → String
  | unsupportedElement type => "LOGIC ERROR: unsupported array element type " ++ type.name
  | tooManyWorkers => "a semaphore may not have more than MAX_PERMITS permits (2305843009213693951)"
  | noRoom => "capacity overflow"

namespace Json

/-- The integer that an array element counts as: true is 1, and what is no integer is 0. -/
def elementInt : Json → Int
  | bool true => 1
  | number value => value.toInt?.getD 0
  | _ => 0

/-- The text that an array element counts as: null is empty. -/
def elementText : Json → String
  | null => ""
  | value => value.render

@[simp] theorem elementInt_eq (value : Json) : value.elementInt = value.toInt?.getD 0 := by
  cases value with
  | bool flag => cases flag <;> rfl
  | _ => rfl

@[simp] theorem elementText_eq (value : Json) : value.elementText = value.toText?.getD "" := by
  cases value <;> rfl

end Json

namespace Record

/-- The default of a field that has no value of its own. -/
def orDefault {α : Type} (nullable : Bool) (zero : α) (value : Option α) : Option α :=
  match value with
  | some value => some value
  | none => if nullable then none else some zero

@[simp] theorem orDefault_true {α : Type} (zero : α) (value : Option α) :
    orDefault true zero value = value := by
  cases value <;> rfl

/-- The text of a field. -/
def getString (record : Record) (key : String) (nullable : Bool) : Option String :=
  orDefault nullable "" ((record.find? key).bind Json.toText?)

/-- The double of a field. -/
def getFloat (record : Record) (key : String) (nullable : Bool) : Option Float :=
  orDefault nullable 0.0 ((record.find? key).bind Json.toFloat?)

/-- The integer of a field. -/
def getInt (record : Record) (key : String) (nullable : Bool) : Option Int :=
  orDefault nullable 0 ((record.find? key).bind Json.toInt?)

/-- The instant of a field. -/
def getDateTime (context : ReadContext) (record : Record) (key : String) (nullable : Bool) :
    Remembering (Option Instant) := do
  let value ←
    match record.find? key with
    | some value => value.toInstant? context key
    | none => pure none
  pure (orDefault nullable context.epoch value)

/-- The instant of a field that is there is that of its value. -/
theorem getDateTime_of_find? {record : Record} {key : String} {value : Json}
    (held : record.find? key = some value) (context : ReadContext) (nullable : Bool)
    (cache : LayoutCache) : record.getDateTime context key nullable cache =
      (orDefault nullable context.epoch (value.toInstant? context key cache).1,
        (value.toInstant? context key cache).2) := by
  simp only [getDateTime, held]
  rfl

/-- The instant of a field in whole seconds since the epoch, rounded down. -/
def getUnixSeconds (context : ReadContext) (record : Record) (key : String) (nullable : Bool) :
    Remembering (Option Int) := do
  pure ((← getDateTime context record key nullable).map (·.seconds))

/-- The elements of an array field; any other field has none. -/
def elements (record : Record) (key : String) : List Json :=
  match record.find? key with
  | some (.array items) => items
  | _ => []

/-- The instants of array elements in order. -/
def instants (context : ReadContext) (key : String) : List Json → Remembering (List Instant)
  | [] => pure []
  | item :: rest => do
    let first ← item.toInstant? context key
    let others ← instants context key rest
    pure (first.getD context.epoch :: others)

/-- The elements of an array field, each read as the element type. -/
def getArray (context : ReadContext) (record : Record) (key : String) (element : ScalarType) :
    Remembering ColumnArray := do
  let items := record.elements key
  match element with
  | .int => pure (.ints (items.map Json.elementInt))
  | .float => pure (.floats (items.map fun item => item.toFloat?.getD 0.0))
  | .string => pure (.strings (items.map Json.elementText))
  | .dateTime => return .dateTimes (← instants context key items)

/-- The elements of an array field, for an element type that may be unsupported. -/
def getArrayOf (context : ReadContext) (record : Record) (key : String) (element : FieldType) :
    ExceptT Misuse Remembering ColumnArray :=
  match element with
  | .scalar element => getArray context record key element
  | type => throw (.unsupportedElement type)

/-- The value of a column. -/
def getValue (context : ReadContext) (record : Record) (column : Column) :
    ExceptT Misuse Remembering ColumnValue :=
  let key := column.sourceKey
  let nullable := column.nullable
  match column.type with
  | .scalar .int => pure (.ofOption .int (record.getInt key nullable))
  | .scalar .float => pure (.ofOption .float (record.getFloat key nullable))
  | .scalar .string => pure (.ofOption .string (record.getString key nullable))
  | .scalar .dateTime => do
    let value ← (getDateTime context record key nullable : Remembering _)
    pure (.ofOption .dateTime value)
  | .array element => do
    let values ← (getArray context record key element : Remembering _)
    pure (.array values)
  | .unknown => throw (.unsupportedElement .unknown)

/-- The values of columns in order. -/
def extractRow (context : ReadContext) (record : Record) :
    List Column → ExceptT Misuse Remembering (List ColumnValue)
  | [] => pure []
  | column :: rest => do
    let value ← record.getValue context column
    let values ← extractRow context record rest
    pure (value :: values)

end Record

end Intake
