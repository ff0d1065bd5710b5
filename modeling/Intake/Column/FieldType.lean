/-!
# Field types

The type of a field is unknown, a scalar, or an array of scalars.
-/

namespace Intake

/-- The types of single values. -/
inductive ScalarType where
  | int | float | string | dateTime
  deriving DecidableEq, Repr

/-- The types of fields and columns. -/
inductive FieldType where
  /-- Nothing is known yet: only nulls and empty arrays were seen. -/
  | unknown
  | scalar (type : ScalarType)
  | array (element : ScalarType)
  deriving DecidableEq, Repr

namespace ScalarType

/-- The name of a scalar type. -/
def name : ScalarType → String
  | int => "int"
  | float => "float"
  | string => "string"
  | dateTime => "date_time"

/-- The type of a store's column for single values. -/
def storeType : ScalarType → String
  | int => "Int64"
  | float => "Float64"
  | string => "String"
  | dateTime => "DateTime64(3)"

end ScalarType

namespace FieldType

instance : Inhabited FieldType := ⟨unknown⟩

/-- All field types. -/
def all : List FieldType :=
  [unknown, scalar .int, scalar .float, scalar .string, scalar .dateTime,
    array .int, array .float, array .string, array .dateTime]

/-- The name of a field type. -/
def name : FieldType → String
  | unknown => "unknown"
  | scalar type => type.name
  | array element => element.name ++ "_array"

/-- The field type with a name. -/
def ofName? (text : String) : Option FieldType := all.find? fun type => type.name = text

theorem ofName?_name (type : FieldType) : ofName? type.name = some type := by
  rcases type with _ | type | element
  · decide
  · cases type <;> decide
  · cases element <;> decide

/-- It is an array type. -/
def isArray : FieldType → Bool
  | array _ => true
  | _ => false

/-- The type of arrays with elements of this type, where there is one. -/
def arrayOf? : FieldType → Option FieldType
  | scalar type => some (array type)
  | _ => none

/-- The type of the elements. -/
def element? : FieldType → Option FieldType
  | array element => some (scalar element)
  | _ => none

/-- The type of a store's column. Unknown fields never become columns. -/
def storeType? : FieldType → Option String
  | unknown => none
  | scalar type => some type.storeType
  | array element => some ("Array(" ++ element.storeType ++ ")")

end FieldType

end Intake
