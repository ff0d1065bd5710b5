import Intake.NameMap
import Intake.Number.Basic

/-!
# JSON values

Objects keep their members in ascending order of the names.
-/

namespace Intake

/-- A JSON value. -/
inductive Json where
  | null
  | bool (value : Bool)
  | number (value : Number)
  | string (value : String)
  | array (items : List Json)
  | object (members : List (String × Json))

namespace Json

instance : Inhabited Json := ⟨null⟩

/-- The kinds of values. -/
inductive Kind where
  | null | boolean | number | string | array | object
  deriving DecidableEq, Repr

/-- The word for a kind. -/
def Kind.name : Kind → String
  | null => "null"
  | boolean => "boolean"
  | number => "number"
  | string => "string"
  | array => "array"
  | object => "object"

/-- The kind of a value. -/
def kind : Json → Kind
  | null => .null
  | bool _ => .boolean
  | number _ => .number
  | string _ => .string
  | array _ => .array
  | object _ => .object

/-- An object with members in any order; the last of several with one name counts. -/
def ofMembers (members : List (String × Json)) : Json :=
  object (members.foldl (fun sorted member => insertEntry member.1 member.2 sorted) [])

/-- A value or null. -/
def ofOption {α : Type} (encode : α → Json) : Option α → Json
  | some value => encode value
  | none => null

/-- An integer. Integers that are not kept exactly become doubles. -/
def ofInt (value : Int) : Json :=
  match Number.ofInt? value with
  | some value => number value
  | none => ofOption number (Number.ofDouble? (Float.ofInt value))

/-- The member of an object with a name. -/
def member? (value : Json) (name : String) : Option Json :=
  match value with
  | object members => entryAt? name members
  | _ => none

end Json

end Intake
