import Intake.Unicode.CaseFolding
import Intake.Unicode.Category
import Intake.Unicode.CharSet
import Intake.Unicode.Property
import Intake.Unicode.Script
import Intake.Unicode.ScriptExtension

/-!
# Sets of characters by name

Categories, scripts and properties are found by their names, long or short. Case, blanks, dashes,
underscores and a leading `is` make no difference. Of the properties that are given with a value,
these are the categories, the scripts and their extensions; ages and the classes by which text is
broken are not among them.
-/

namespace Intake

namespace Unicode

/-- The set under a name in a table. -/
def tableSet? (table : List (String × List String)) (name : String) : Option CharSet :=
  (table.lookup name).map CharSet.ofTable

/-- The characters that have one of several categories. -/
def categoriesSet (names : List String) : CharSet :=
  .ofRanges (names.flatMap fun name => ((tableSet? categoryTable name).getD .empty).ranges)

/-- The characters that have some category. -/
def assigned : CharSet := categoriesSet (categoryTable.map (·.1))

/-- The characters of a category or a group of categories, by its short name. -/
def categorySet (name : String) : CharSet :=
  match name with
  | "LC" => categoriesSet ["Lu", "Ll", "Lt"]
  | "Cn" => (assigned.union (.range 0xD800 0xDFFF)).complement
  | "C" => (categoriesSet ["Lu", "Ll", "Lt", "Lm", "Lo", "Mn", "Mc", "Me", "Nd", "Nl", "No", "Pc",
      "Pd", "Ps", "Pe", "Pi", "Pf", "Po", "Sm", "Sc", "Sk", "So", "Zs", "Zl", "Zp"]).complement
  | name =>
    match name.toList with
    | [group] => categoriesSet ((categoryTable.map (·.1)).filter fun category =>
        category.toList.head? == some group)
    | _ => categoriesSet [name]

/-- The characters with a binary property. -/
def propertySet (name : String) : CharSet := (tableSet? propertyTable name).getD .empty

/-- The form of a name in which names are compared. -/
def looseName (name : String) : String :=
  let lower := (name.toList.filter fun c => c.toNat < 128).map Char.toLower
  let strip := fun text : List Char => text.filter fun c => c != ' ' && c != '_' && c != '-'
  match lower with
  | 'i' :: 's' :: rest =>
    let stripped := strip rest
    if stripped = ['c'] then "isc" else String.ofList stripped
  | text => String.ofList (strip text)

/-- The category with a loose name. -/
def categoryByName? (name : String) : Option CharSet :=
  if name = "any" then some .all
  else if name = "ascii" then some (.range 0 0x7F)
  else if name = "assigned" then some ((categorySet "Cn").complement)
  else (categoryNames.lookup name).map categorySet

/-- The script with a loose name. -/
def scriptByName? (name : String) : Option CharSet :=
  (scriptNames.lookup name).bind (tableSet? scriptTable)

/-- The characters used with the script of a loose name. -/
def scriptExtensionByName? (name : String) : Option CharSet := do
  let script ← scriptNames.lookup name
  (tableSet? scriptExtensionTable script) <|> (tableSet? scriptTable script)

/-- The set that a single name stands for: a property, a category or a script. -/
def setByName? (name : String) : Option CharSet :=
  let name := looseName name
  let property :=
    if name = "cf" ∨ name = "sc" ∨ name = "lc" then none else propertyNames.lookup name
  match property with
  | some property => some (propertySet property)
  | none => categoryByName? name <|> scriptByName? name

/-- The set of characters with a value for a property. -/
def setByValue? (property value : String) : Option CharSet :=
  let value := looseName value
  match looseName property with
  | "gc" | "generalcategory" => categoryByName? value
  | "sc" | "script" => scriptByName? value
  | "scx" | "scriptextensions" => scriptExtensionByName? value
  | _ => none

/-- The decimal digits. -/
def digits : CharSet := categorySet "Nd"

/-- The blank characters. -/
def blanks : CharSet := propertySet "White_Space"

/-- The characters of words: letters, marks, decimal digits, connectors and joiners. -/
def wordChars : CharSet :=
  .ofRanges ((propertySet "Alphabetic").ranges ++
    (categoriesSet ["Mn", "Mc", "Me", "Nd", "Pc"]).ranges ++ (propertySet "Join_Control").ranges)

/-- The characters that may stand inside a group name besides a few signs. -/
def isAlphanumeric (c : Char) : Bool :=
  (propertySet "Alphabetic").contains c.toNat ||
    (categoriesSet ["Nd", "Nl", "No"]).contains c.toNat

/-- The characters that may begin a group name besides the underscore. -/
def isAlphabetic (c : Char) : Bool := (propertySet "Alphabetic").contains c.toNat

/-- The set with every character that differs from one of its members only in case. -/
def closeCase (set : CharSet) : CharSet :=
  let added := allCaseFamilies.flatMap fun family =>
    if family.any set.contains then family.map fun code => (code, code) else []
  .ofRanges (set.ranges ++ added)

end Unicode

end Intake
