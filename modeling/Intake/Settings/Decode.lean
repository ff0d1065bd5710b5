import Intake.Document.Node
import Intake.Settings.Basic

/-!
# Settings as documents

Settings are written as a tree of values and read from a document tree. Fields that have a default
may be left out, fields without a meaning are passed over.
-/

namespace Intake

/-- The words for units, in the order they are listed in. -/
def TimeUnit.words : List String :=
  ["s", "second", "millisecond", "ms", "microsecond", "us", "nanosecond", "ns"]

/-- The unit that a node names. -/
def TimeUnit.ofNode : Node → Except Misfit TimeUnit := Node.word TimeUnit.ofName? TimeUnit.words

/-- The field type that a node names. -/
def FieldType.ofNode : Node → Except Misfit FieldType :=
  Node.word FieldType.ofName? (FieldType.all.map FieldType.name)

/-- The zone that a node names on a host with some rule. -/
def Zone.ofNode (rule : DaylightRule) (node : Node) : Except Misfit Zone := do
  match Zone.ofText? rule (← node.text) with
  | some zone => .ok zone
  | none => .error .shape

/-- The column that a node describes. -/
def Column.ofNode (node : Node) : Except Misfit Column := do
  let fields ← node.fields ["name", "source", "type", "nullable"]
  let name ← Node.field? Node.text fields "name"
  let source ← Node.field? (Node.optional Node.text) fields "source"
  let type ← Node.field? FieldType.ofNode fields "type"
  let nullable ← Node.field? Node.bool fields "nullable"
  let name ← Node.required "name" name
  let type ← Node.required "type" type
  pure { name := name, source := source.join, type := type, nullable := nullable.getD false }

/-- The table that a node describes. -/
def TableSettings.ofNode (node : Node) : Except Misfit TableSettings := do
  let fields ← node.fields ["name", "allow", "deny", "columns"]
  let name ← Node.field? Node.text fields "name"
  let allow ← Node.field? (Node.optional Node.text) fields "allow"
  let deny ← Node.field? (Node.optional Node.text) fields "deny"
  let columns ← Node.field? (Node.list Column.ofNode) fields "columns"
  let name ← Node.required "name" name
  pure { name := name, allow := allow.join, deny := deny.join, columns := columns.getD [] }

/-- The settings that a node describes on a host with some rule. -/
def Settings.ofNode (rule : DaylightRule) (node : Node) : Except Misfit Settings := do
  let fields ← node.fields ["time_unit", "timezone", "epoch_sentinel", "layouts", "tables"]
  let unit ← Node.field? TimeUnit.ofNode fields "time_unit"
  let zone ← Node.field? (Zone.ofNode rule) fields "timezone"
  let epoch ← Node.field? (Node.optional Node.text) fields "epoch_sentinel"
  let layouts ← Node.field? (Node.optional (Node.list Node.text)) fields "layouts"
  let tables ← Node.field? (Node.list TableSettings.ofNode) fields "tables"
  pure
    { unit := unit.getD .second
      zone := zone.getD .utc
      epoch := epoch.join
      layouts := layouts.join
      tables := tables.getD [] }

/-- A member that is left out where there is no value. -/
def optionalMember {α : Type} (name : String) (encode : α → Json) :
    Option α → List (String × Json)
  | some value => [(name, encode value)]
  | none => []

/-- The JSON form of a table. -/
def TableSettings.toJson (table : TableSettings) : Json :=
  .ofMembers <|
    [("name", .string table.name)] ++ optionalMember "allow" .string table.allow ++
      optionalMember "deny" .string table.deny ++
      [("columns", .array (table.columns.map Column.toJson))]

/-- The JSON form of settings. -/
def Settings.toJson (settings : Settings) : Json :=
  .ofMembers <|
    [("time_unit", .string settings.unit.name), ("timezone", .string settings.zone.name)] ++
      optionalMember "epoch_sentinel" .string settings.epoch ++
      optionalMember "layouts" (fun texts => .array (texts.map Json.string)) settings.layouts ++
      [("tables", .array (settings.tables.map TableSettings.toJson))]

end Intake
