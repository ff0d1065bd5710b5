import Intake.Proofs.Record.Inference
import Intake.Proofs.Record.Repeatability
import Intake.Proofs.Settings.Validate

/-!
# What valid settings extract

Settings that were read are valid, so nothing that is done with them later can fail.
`Settings.serves_of_read` says so: there is a context, every table is found by its name and has a
tracker, and every record has a row, with a value of the right type for each column. That holds
whichever layouts are remembered, and those that are remembered stay among those in force.
-/

namespace Intake

/-- The type that a value has for itself. Null has none. -/
def ColumnValue.type? : ColumnValue → Option FieldType
  | null => none
  | int _ => some (.scalar .int)
  | float _ => some (.scalar .float)
  | string _ => some (.scalar .string)
  | dateTime _ => some (.scalar .dateTime)
  | array values => some (.array values.element)

/-- A column can take values of its type, and null where it is a single value that may be null. -/
def Column.Takes (column : Column) (value : ColumnValue) : Prop :=
  value.type? = some column.type ∨
    value = .null ∧ column.nullable = true ∧ ∃ type, column.type = .scalar type

/-- Every position that is remembered is the position of a layout. -/
def LayoutReader.InForce (reader : LayoutReader) (cache : LayoutCache) : Prop :=
  ∀ key index, cache.get? key = some index → index < reader.layouts.length

theorem LayoutReader.InForce.readField {reader : LayoutReader} {cache : LayoutCache}
    (inForce : reader.InForce cache) (key value : String) :
    reader.InForce (reader.readField cache key value).2 := by
  intro other index held
  rcases get?_readField held with before | ⟨-, instant, scanned⟩
  · exact inForce other index before
  · obtain ⟨-, layout, there, -⟩ := scan_eq_some scanned
    exact (List.getElem?_eq_some_iff.1 there).1

/-- An action that remembers no layouts but those in force. -/
def Remembering.Proper {α : Type} (reader : LayoutReader) (action : Remembering α) : Prop :=
  ∀ cache, reader.InForce cache → reader.InForce (action cache).2

namespace Remembering.Proper

variable {α β : Type} {reader : LayoutReader}

theorem pure (answer : α) : Proper reader (Pure.pure answer) := fun _ inForce => inForce

theorem bind {action : Remembering α} {next : α → Remembering β} (first : Proper reader action)
    (then_ : ∀ answer, Proper reader (next answer)) : Proper reader (action >>= next) :=
  fun cache inForce => then_ _ _ (first cache inForce)

end Remembering.Proper

/-- An action that gives an answer of some kind, whatever is remembered, and remembers no layouts
but those in force. -/
def Succeeds {α : Type} (reader : LayoutReader) (action : ExceptT Misuse Remembering α)
    (kind : α → Prop) : Prop :=
  ∀ cache, ∃ answer after, action.run cache = (.ok answer, after) ∧ kind answer ∧
    (reader.InForce cache → reader.InForce after)

namespace Succeeds

variable {α β : Type} {reader : LayoutReader} {kind : α → Prop}

theorem pure {answer : α} (isKind : kind answer) : Succeeds reader (Pure.pure answer) kind :=
  fun cache => ⟨answer, cache, rfl, isKind, id⟩

theorem lift {action : Remembering α} (proper : action.Proper reader)
    (isKind : ∀ cache, kind (action cache).1) :
    Succeeds reader (action : ExceptT Misuse Remembering α) kind :=
  fun cache => ⟨(action cache).1, (action cache).2, rfl, isKind cache, proper cache⟩

/-- What an action answers is what it answers with something remembered. -/
theorem answered {action : ExceptT Misuse Remembering α} (succeeds : Succeeds reader action kind) :
    Succeeds reader action fun answer =>
      kind answer ∧ ∃ earlier, (action.run earlier).1 = .ok answer := by
  intro cache
  obtain ⟨answer, after, ran, isKind, kept⟩ := succeeds cache
  exact ⟨answer, after, ran, ⟨isKind, cache, by rw [ran]⟩, kept⟩

/-- Two actions in a row succeed where the second does for every answer of the first. -/
theorem bind {action : ExceptT Misuse Remembering α} {next : α → ExceptT Misuse Remembering β}
    {later : β → Prop} (first : Succeeds reader action kind)
    (then_ : ∀ answer, kind answer → Succeeds reader (next answer) later) :
    Succeeds reader (action >>= next) later := by
  intro cache
  obtain ⟨answer, between, ran, isKind, kept⟩ := first cache
  obtain ⟨final, after, ranNext, isLater, keptNext⟩ := then_ answer isKind between
  refine ⟨final, after, ?_, isLater, fun inForce => keptNext (kept inForce)⟩
  rw [ExceptT.run_bind, Remembering.bind_apply, ran]
  exact ranNext

end Succeeds

theorem Json.toInstant?_proper (context : ReadContext) (key : String) (value : Json) :
    (value.toInstant? context key).Proper context.reader := by
  cases value with
  | null | bool | array | object | number => exact fun _ inForce => inForce
  | string value =>
    intro cache inForce
    by_cases given : value = ""
    · simpa [Json.toInstant?, given] using inForce
    · rw [toInstant?_string given]
      exact inForce.readField key value

namespace Record

variable (context : ReadContext) (record : Record)

theorem getDateTime_proper (key : String) (nullable : Bool) :
    (record.getDateTime context key nullable).Proper context.reader := by
  unfold getDateTime
  cases record.find? key with
  | none => exact .pure _
  | some value => exact (value.toInstant?_proper context key).bind fun _ => .pure _

theorem instants_proper (key : String) (items : List Json) :
    (instants context key items).Proper context.reader := by
  induction items with
  | nil => exact .pure []
  | cons item rest ih =>
    exact (item.toInstant?_proper context key).bind fun _ => ih.bind fun _ => .pure _

theorem getArray_proper (key : String) (element : ScalarType) :
    (record.getArray context key element).Proper context.reader := by
  cases element with
  | int | float | string => exact .pure _
  | dateTime => exact (instants_proper context key _).bind fun _ => .pure _

/-- A field that may not be null has a value. -/
theorem takes_ofOption {α : Type} {column : Column} {type : ScalarType}
    (isType : column.type = .scalar type) {wrap : α → ColumnValue}
    (isWrap : ∀ value, (wrap value).type? = some (.scalar type)) (zero : α) (value : Option α) :
    column.Takes (.ofOption wrap (orDefault column.nullable zero value)) := by
  cases value with
  | some value => exact .inl (by rw [isType]; exact isWrap value)
  | none =>
    cases nullable : column.nullable with
    | true => exact .inr ⟨rfl, nullable, type, isType⟩
    | false => exact .inl (by rw [isType]; exact isWrap zero)

/-- A column of a known type has a value that it can take. -/
theorem getValue_succeeds {column : Column} (known : column.type ≠ .unknown) :
    Succeeds context.reader (record.getValue context column) column.Takes := by
  unfold getValue
  cases type : column.type with
  | unknown => exact absurd type known
  | scalar scalar =>
    cases scalar with
    | int => exact .pure (takes_ofOption type (fun _ => rfl) ..)
    | float => exact .pure (takes_ofOption type (fun _ => rfl) ..)
    | string => exact .pure (takes_ofOption type (fun _ => rfl) ..)
    | dateTime =>
      refine (Succeeds.lift (record.getDateTime_proper context _ _) fun cache => ?_).bind
        fun value (isKind : column.Takes (.ofOption .dateTime value)) => .pure isKind
      rw [fst_getDateTime]
      exact takes_ofOption type (fun _ => rfl) ..
  | array element =>
    refine (Succeeds.lift (record.getArray_proper context _ _) fun cache => ?_).bind
      fun values (isElement : values.element = element) => .pure (.inl ?_)
    · exact element_getArray context record _ element cache
    · rw [type, ← isElement]
      rfl

/-- A record has a row, with a value for each column in order that is read for the column and that
the column can take. -/
theorem extractRow_succeeds {columns : List Column}
    (known : ∀ column ∈ columns, column.type ≠ .unknown) :
    Succeeds context.reader (record.extractRow context columns)
      (List.Forall₂ (fun column value => column.Takes value ∧
        ∃ earlier, ((record.getValue context column).run earlier).1 = .ok value) columns) := by
  induction columns with
  | nil => exact .pure .nil
  | cons column rest ih =>
    obtain ⟨first, others⟩ := List.forall_mem_cons.1 known
    exact (record.getValue_succeeds context first).answered.bind fun value isValue =>
      (ih others).bind fun values areValues => .pure (.cons isValue areValues)

end Record

namespace Settings

/-- The columns of valid settings have known types. -/
theorem known_of_check {engine : PatternEngine} {settings : Settings}
    (valid : settings.check engine = .ok ()) {table : TableSettings}
    (listed : table ∈ settings.tables) :
    ∀ column ∈ table.columns, column.type ≠ .unknown := by
  obtain ⟨-, -, -, tables⟩ := check_eq_ok_iff.1 valid
  obtain ⟨-, -, columns⟩ := TableSettings.check_eq_ok_iff.1 (tables table listed)
  exact fun column inside => ((checkColumns_eq_ok_iff.1 columns).2 column inside).2.2

/-- Settings that were read serve every table and every record.

They give a context for records. Each table is the one that its name finds, and it has a tracker.
From every record, whatever is remembered, each table extracts a row without fail: one value for
each column in order, read for that column and of its type, where only a single value that may be
null can be null. The layouts that are remembered are among those in force if they were so before.
-/
theorem serves_of_read {platform : Platform} {text : String} {settings : Settings}
    (accepted : read platform text = .ok settings) :
    ∃ context, settings.context = .ok context ∧ ∀ table ∈ settings.tables,
      settings.table table.name = .ok table ∧
      (∃ tracker, SchemaTracker.ofTable platform.patterns table = .ok tracker) ∧
      ∀ (record : Record) (cache : LayoutCache), ∃ values after,
        (record.extractRow context table.columns).run cache = (.ok values, after) ∧
        List.Forall₂ (fun column value => column.Takes value ∧
          ∃ earlier, ((record.getValue context column).run earlier).1 = .ok value)
          table.columns values ∧
        (context.reader.InForce cache → context.reader.InForce after) := by
  have valid := check_of_read accepted
  obtain ⟨context, made⟩ := exists_context valid
  obtain ⟨-, -, -, tables⟩ := check_eq_ok_iff.1 valid
  refine ⟨context, made, fun table listed => ⟨table_of_mem valid listed, ?_, fun record => ?_⟩⟩
  · obtain ⟨filter, -, tracked⟩ := SchemaTracker.exists_ofTable (tables table listed)
    exact ⟨_, tracked⟩
  · exact record.extractRow_succeeds context (known_of_check valid listed)

/-- Settings with one table, whose columns are a renamed date-time and a list of doubles. -/
def loads : Settings where
  tables := [{
    name := "loads"
    columns := [
      { name := "ts", source := some "at", type := .scalar .dateTime, nullable := true },
      { name := "sizes", type := .array .float }] }]

/-- A document that holds these settings. -/
def loadsText : String :=
  "tables:\n- name: loads\n  columns:\n  - name: ts\n    source: at\n    type: date_time\n" ++
    "    nullable: true\n  - {name: sizes, type: float_array}"

theorem loads_read : read .standard loadsText = .ok loads := by
  decide +kernel

/-- Every record has a row with a date-time or null, and with a list of doubles. -/
theorem loads_served : read .standard loadsText = .ok loads ∧
    ∃ context, loads.context = .ok context ∧
      ∀ table ∈ loads.tables, ∀ (record : Record) (cache : LayoutCache), ∃ moment sizes after,
        (record.extractRow context table.columns).run cache =
          (.ok [moment, .array sizes], after) ∧
        (moment.type? = some (.scalar .dateTime) ∨ moment = .null) ∧ sizes.element = .float := by
  refine ⟨loads_read, ?_⟩
  obtain ⟨context, made, serves⟩ := serves_of_read loads_read
  refine ⟨context, made, fun table listed record cache => ?_⟩
  obtain ⟨values, after, ran, row, -⟩ := (serves table listed).2.2 record cache
  obtain rfl := List.mem_singleton.1 listed
  obtain ⟨moment, _, ⟨isMoment, -⟩, rest, rfl⟩ := List.forall₂_cons_left_iff.1 row
  obtain ⟨value, _, ⟨isSizes, -⟩, ended, rfl⟩ := List.forall₂_cons_left_iff.1 rest
  obtain rfl := List.forall₂_nil_left_iff.1 ended
  have typed : value.type? = some (.array .float) :=
    isSizes.resolve_right fun ⟨_, nullable, _⟩ => Bool.false_ne_true nullable
  cases value with
  | array sizes =>
    exact ⟨moment, sizes, after, ran, isMoment.imp_right And.left,
      FieldType.array.inj (Option.some.inj typed)⟩
  | null | int | float | string | dateTime => cases typed

end Settings

end Intake
