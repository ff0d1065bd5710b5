import Intake.Proofs.Calendar.ZoneName
import Intake.Proofs.Document.Shown
import Intake.Proofs.Settings.Validate

/-!
# Settings that are written and loaded again

Settings are written with all that they hold: units, types and zones by their names, and fields that
have no value left out. `Settings.reloads` says that settings which were read from a document come
back equal from the tree of values that they are written as, in whatever order the members stand in
it. They are valid again, and give the same context.
-/

namespace Intake

theorem join_map_some {α : Type} (given : Option α) : (given.map some).join = given := by
  cases given <;> rfl

/-! ## Columns and tables -/

namespace Column

/-- The members of a column, of which the source may be left out. -/
def slots (column : Column) : List (String × Option Json) :=
  [("name", some (.string column.name)), ("source", column.source.map .string),
    ("type", some (.string column.type.name)), ("nullable", some (.bool column.nullable))]

theorem toJson_eq (column : Column) : column.toJson = .ofMembers (givenMembers column.slots) := by
  unfold toJson
  cases source : column.source <;> simp [slots, givenMembers, source]

/-- A column is read from the form that it is written in. -/
theorem reads_toJson (column : Column) : Node.Reads ofNode column.toJson column := by
  intro node shown
  rw [toJson_eq] at shown
  obtain ⟨fields, split, shows⟩ := Node.exists_fields (by simp [slots]) shown
    ["name", "source", "type", "nullable"]
  have name : Node.field? Node.text fields "name" = .ok (some column.name) :=
    Node.field?_of_some shows rfl (Node.reads_text _)
  have source : Node.field? (Node.optional Node.text) fields "source" =
      .ok (column.source.map some) :=
    Node.field?_optional shows rfl fun text => (Node.reads_text text).optional_string
  have type : Node.field? FieldType.ofNode fields "type" = .ok (some column.type) :=
    Node.field?_of_some shows rfl (Node.reads_word column.type.ofName?_name)
  have nullable : Node.field? Node.bool fields "nullable" = .ok (some column.nullable) :=
    Node.field?_of_some shows rfl (Node.reads_bool _)
  simp only [ofNode, split, name, source, type, nullable, join_map_some, bind, Except.bind,
    Node.required]
  rfl

end Column

namespace TableSettings

/-- The members of a table, of which the patterns may be left out. -/
def slots (table : TableSettings) : List (String × Option Json) :=
  [("name", some (.string table.name)), ("allow", table.allow.map .string),
    ("deny", table.deny.map .string),
    ("columns", some (.array (table.columns.map Column.toJson)))]

theorem toJson_eq (table : TableSettings) :
    table.toJson = .ofMembers (givenMembers table.slots) := by
  unfold toJson
  cases allow : table.allow <;> cases deny : table.deny <;>
    simp [slots, givenMembers, optionalMember, allow, deny]

/-- A table is read from the form that it is written in. -/
theorem reads_toJson (table : TableSettings) : Node.Reads ofNode table.toJson table := by
  intro node shown
  rw [toJson_eq] at shown
  obtain ⟨fields, split, shows⟩ := Node.exists_fields (by simp [slots]) shown
    ["name", "allow", "deny", "columns"]
  have name : Node.field? Node.text fields "name" = .ok (some table.name) :=
    Node.field?_of_some shows rfl (Node.reads_text _)
  have allow : Node.field? (Node.optional Node.text) fields "allow" = .ok (table.allow.map some) :=
    Node.field?_optional shows rfl fun text => (Node.reads_text text).optional_string
  have deny : Node.field? (Node.optional Node.text) fields "deny" = .ok (table.deny.map some) :=
    Node.field?_optional shows rfl fun text => (Node.reads_text text).optional_string
  have columns : Node.field? (Node.list Column.ofNode) fields "columns" =
      .ok (some table.columns) :=
    Node.field?_of_some shows rfl (Node.reads_list fun column _ => column.reads_toJson)
  simp only [ofNode, split, name, allow, deny, columns, join_map_some, bind, Except.bind,
    Node.required]
  rfl

end TableSettings

/-! ## Settings -/

section

variable {rule : DaylightRule}

/-- A zone that has a name is read from it. -/
theorem Zone.reads_name {zone : Zone} (nameable : zone.Nameable rule) :
    Node.Reads (ofNode rule) (.string zone.name) zone := by
  intro node shown
  refine Except.bind_eq_ok_iff.2 ⟨zone.name, Node.reads_text _ node shown, ?_⟩
  rw [ofText?_name nameable]

/-- Zones that are read from a node have a name. -/
theorem Zone.nameable_of_ofNode {node : Node} {zone : Zone} (read : ofNode rule node = .ok zone) :
    zone.Nameable rule := by
  obtain ⟨text, -, named⟩ := Except.bind_eq_ok_iff.1 read
  cases found : ofText? rule text with
  | none =>
    rw [found] at named
    cases named
  | some other =>
    rw [found] at named
    cases named
    exact nameable_of_ofText? found

namespace Settings

/-- The members of settings, of which the epoch and the layouts may be left out. -/
def slots (settings : Settings) : List (String × Option Json) :=
  [("time_unit", some (.string settings.unit.name)),
    ("timezone", some (.string settings.zone.name)),
    ("epoch_sentinel", settings.epoch.map .string),
    ("layouts", settings.layouts.map fun texts => .array (texts.map Json.string)),
    ("tables", some (.array (settings.tables.map TableSettings.toJson)))]

theorem toJson_eq (settings : Settings) :
    settings.toJson = .ofMembers (givenMembers settings.slots) := by
  unfold toJson
  cases epoch : settings.epoch <;> cases layouts : settings.layouts <;>
    simp [slots, givenMembers, optionalMember, epoch, layouts]

/-- Settings are read from the form that they are written in, where the name of their zone is one
that can be read. -/
theorem reads_toJson {settings : Settings} (nameable : settings.zone.Nameable rule) :
    Node.Reads (ofNode rule) settings.toJson settings := by
  intro node shown
  rw [toJson_eq] at shown
  obtain ⟨fields, split, shows⟩ := Node.exists_fields (by simp [slots]) shown
    ["time_unit", "timezone", "epoch_sentinel", "layouts", "tables"]
  have unit : Node.field? TimeUnit.ofNode fields "time_unit" = .ok (some settings.unit) :=
    Node.field?_of_some shows rfl (Node.reads_word settings.unit.ofName?_name)
  have zone : Node.field? (Zone.ofNode rule) fields "timezone" = .ok (some settings.zone) :=
    Node.field?_of_some shows rfl (Zone.reads_name nameable)
  have epoch : Node.field? (Node.optional Node.text) fields "epoch_sentinel" =
      .ok (settings.epoch.map some) :=
    Node.field?_optional shows rfl fun text => (Node.reads_text text).optional_string
  have layouts : Node.field? (Node.optional (Node.list Node.text)) fields "layouts" =
      .ok (settings.layouts.map some) :=
    Node.field?_optional shows rfl fun texts =>
      (Node.reads_list fun text _ => Node.reads_text text).optional_array
  have tables : Node.field? (Node.list TableSettings.ofNode) fields "tables" =
      .ok (some settings.tables) :=
    Node.field?_of_some shows rfl (Node.reads_list fun table _ => table.reads_toJson)
  simp only [ofNode, split, unit, zone, epoch, layouts, tables, join_map_some, bind, Except.bind]
  rfl

/-- The zone of settings that are read has a name. -/
theorem nameable_of_ofNode {node : Node} {settings : Settings}
    (decoded : ofNode rule node = .ok settings) : settings.zone.Nameable rule := by
  simp only [ofNode, Except.bind_eq_ok_iff] at decoded
  obtain ⟨fields, -, unit, -, zone, isZone, epoch, -, layouts, -, tables, -, same⟩ := decoded
  cases same
  unfold Node.field? at isZone
  split at isZone
  · rename_i zoneNode _
    cases read : Zone.ofNode rule zoneNode with
    | error misfit =>
      rw [read] at isZone
      cases isZone
    | ok named =>
      rw [read] at isZone
      cases isZone
      exact Zone.nameable_of_ofNode read
  · cases isZone
    exact .utc

/-- Settings that a text holds are those that the tree of its document describes. -/
theorem exists_node_of_decode {platform : Platform} {text : String} {settings : Settings}
    (decoded : decode platform text = .ok settings) :
    ∃ node, ofNode platform.localRule node = .ok settings := by
  unfold decode at decoded
  split at decoded
  · cases decoded
  · rename_i node _
    split at decoded
    · rename_i described read
      cases decoded
      exact ⟨node, read⟩
    · cases decoded

/-- Settings that were read come back from the tree of values that they are written as.

What is read from the tree, with its members in any order, is equal to the settings, whatever the
document had left to defaults or written in another way. It passes the checks again, and gives the
same context for records. -/
theorem reloads {platform : Platform} {text : String} {settings : Settings}
    (accepted : read platform text = .ok settings) :
    settings.toJson.toNode.Shows settings.toJson ∧ ∃ context, settings.context = .ok context ∧
      ∀ tree : Node, tree.Shows settings.toJson →
        ∃ again, ofNode platform.localRule tree = .ok again ∧ again = settings ∧
          again.check platform.patterns = .ok () ∧ again.context = .ok context := by
  obtain ⟨held, valid⟩ := read_eq_ok_iff.1 accepted
  obtain ⟨node, decoded⟩ := exists_node_of_decode held
  obtain ⟨context, made⟩ := exists_context valid
  have reads := reads_toJson (nameable_of_ofNode decoded)
  exact ⟨settings.toJson.shows_toNode, context, made, fun tree shows =>
    ⟨settings, reads tree shows, rfl, valid, made⟩⟩

/-- Settings that leave nothing to the defaults but one pattern and whether a column is nullable. -/
def east : Settings where
  unit := .millisecond
  zone := .fixed { seconds := 20700 }
  epoch := some "2000-01-01T00:00:00Z"
  layouts := some ["rfc3339"]
  tables := [{
    name := "loads"
    deny := some "^_"
    columns := [{ name := "ts", source := some "at", type := .scalar .dateTime }] }]

/-- A document that holds these settings, with the unit and the zone written in another way than
they are when the settings are written. -/
def eastText : String :=
  "time_unit: ms\ntimezone: +0545\nepoch_sentinel: 2000-01-01T00:00:00Z\nlayouts: [rfc3339]\n" ++
    "tables:\n- name: loads\n  deny: ^_\n  columns:\n  - {name: ts, source: at, type: date_time}"

/-- The settings come back from their tree, with the same context. -/
theorem east_reloads : read .standard eastText = .ok east ∧
    ∃ context again, east.context = .ok context ∧
      ofNode .eastern east.toJson.toNode = .ok again ∧ again = east ∧
      again.check .regex = .ok () ∧ again.context = .ok context := by
  have accepted : read .standard eastText = .ok east := by decide +kernel
  obtain ⟨shown, context, made, back⟩ := reloads accepted
  obtain ⟨again, decoded, same, valid, remade⟩ := back _ shown
  exact ⟨accepted, context, again, made, decoded, same, valid, remade⟩

end Settings

end

end Intake
