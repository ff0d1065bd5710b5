import Intake.Column.FieldType
import Intake.Layout.Reader
import Intake.Record.Basic

/-!
# The type of a value

Nulls and empty arrays have no type yet. Booleans and integral numbers are integers, strings that
some layout reads are date-times, arrays are typed by their first element, and objects are strings.
-/

namespace Intake

/-- The field type that a value suggests. -/
def Json.detectType (reader : LayoutReader) : Json → FieldType
  | null => .unknown
  | bool _ => .scalar .int
  | number value => if value.toInt?.isSome then .scalar .int else .scalar .float
  | string value => if reader.recognises value then .scalar .dateTime else .scalar .string
  | array [] => .unknown
  | array (first :: _) => (first.detectType reader).arrayOf?.getD .unknown
  | object _ => .scalar .string

/-- The type of a field, if the record has it. -/
def Record.detectType? (record : Record) (reader : LayoutReader) (key : String) :
    Option FieldType :=
  (record.find? key).map (·.detectType reader)

end Intake
