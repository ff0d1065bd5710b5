import Intake.Proofs.Schema.History
import Intake.Proofs.Settings.Validate

/-!
# Reported fields and the columns of a table

A column has a name of its own and the name of the field that it is read from. The tracker of a
table knows the fields that the columns are read from, so none of these is ever reported. It does
not know the names of the columns: `SchemaTracker.shown_avoids_columns` says for which tables a
reported field, which becomes a column of its own name, never meets a column that is there already.
-/

namespace Intake

/-- Fields are reported only where the filter admits them. -/
theorem Request.admits_of_reported {filter : KeyFilter} {request : Request} {name : String}
    {type : FieldType} (reported : request.decides? filter name = some (.reported type)) :
    filter.admits name = true := by
  cases request with
  | seed names =>
    simp only [decides?] at reported
    split at reported <;> simp at reported
  | drain => simp [decides?] at reported
  | discover reader record =>
    obtain ⟨value, -, admitted⟩ := decides?_discover_eq_reported_iff.1 reported
    cases verdict : Discoveries.verdict filter reader name value with
    | rejected | undecided => simp [verdict, Discoveries.Verdict.type?] at admitted
    | admitted => exact (Discoveries.verdict_eq_admitted_iff.1 verdict).1

theorem admits_of_decision?_eq_reported {filter : KeyFilter} {history : List Request}
    {name : String} {type : FieldType}
    (reported : decision? filter history name = some (.reported type)) :
    filter.admits name = true := by
  obtain ⟨request, -, decides⟩ := List.exists_of_findSome?_eq_some reported
  exact Request.admits_of_reported decides

/-- Names that are marked first are decided by that. -/
theorem decision?_seed_cons (filter : KeyFilter) (names : List String) (history : List Request)
    (name : String) : decision? filter (.seed names :: history) name =
      if name ∈ names then some .seeded else decision? filter history name := by
  by_cases named : name ∈ names <;> simp [decision?, Request.decides?, named]

/-- The record with one field, whose value is true. -/
def Record.flag (name : String) : Record := NameMap.empty.insert name (.bool true)

/-- The first request that looks at an admitted flag reports it. -/
theorem decision?_flag {filter : KeyFilter} {name : String} (admitted : filter.admits name = true)
    (reader : LayoutReader) :
    decision? filter [.discover reader (.flag name)] name = some (.reported (.scalar .int)) := by
  simp [decision?, Request.decides?, Record.flag, admitted, Json.detectType]

namespace SchemaTracker

/-- The fields shown while requests are served: those handed over and those still pending. -/
def shown (tracker : SchemaTracker) (history : List Request) : List NewField :=
  handedOver (tracker.serveAll history).1 ++ (tracker.serveAll history).2.state.pendingFields

/-- A tracker that knows some names from the start shows the fields that are reported after these
names were marked. -/
theorem mem_shown_seed_iff {table : String} {filter : KeyFilter} {names : List String}
    {history : List Request} {field : NewField} :
    field ∈ (seed { table := table, filter := filter } names).shown history ↔
      decision? filter (.seed names :: history) field.name = some (.reported field.type) := by
  rw [shown, List.mem_append, ← @shown_iff table]
  rfl

/-- The tracker of a valid table serves any requests in any order.

No field that it shows bears the name of a field that a column is read from. That none bears the
name of a column holds for all requests exactly where every column whose name the filter admits has
the name of a field that some column is read from. -/
theorem shown_avoids_columns (engine : PatternEngine) (settings : Settings)
    (valid : settings.check engine = .ok ()) (table : TableSettings)
    (listed : table ∈ settings.tables) :
    ∃ tracker, ofTable engine table = .ok tracker ∧
      (∀ history, ∀ field ∈ tracker.shown history, ∀ column ∈ table.columns,
        field.name ≠ column.sourceKey) ∧
      ((∀ history, ∀ field ∈ tracker.shown history, ∀ column ∈ table.columns,
          field.name ≠ column.name) ↔
        ∀ column ∈ table.columns, tracker.filter.admits column.name = true →
          ∃ other ∈ table.columns, other.sourceKey = column.name) := by
  obtain ⟨-, -, -, tables⟩ := Settings.check_eq_ok_iff.1 valid
  obtain ⟨filter, -, made⟩ := exists_ofTable (tables table listed)
  refine ⟨_, made, ?_⟩
  -- What is shown was reported, and the fields that columns are read from are decided before.
  have apart : ∀ history, ∀ field ∈
      (seed { table := table.name, filter := filter } (table.columns.map Column.sourceKey)).shown
        history,
      field.name ∉ table.columns.map Column.sourceKey ∧ filter.admits field.name = true := by
    intro history field inside
    have reported := mem_shown_seed_iff.1 inside
    rw [decision?_seed_cons] at reported
    split at reported
    · simp at reported
    · rename_i unread
      exact ⟨unread, admits_of_decision?_eq_reported reported⟩
  refine ⟨fun history field inside column held same => ?_, fun free column held admitted => ?_,
    fun covered history field inside column held same => ?_⟩
  · exact (apart history field inside).1 (List.mem_map.2 ⟨column, held, same.symm⟩)
  · by_contra uncovered
    have unread : column.name ∉ table.columns.map Column.sourceKey := by
      simpa using uncovered
    have reported : decision? filter (.seed (table.columns.map Column.sourceKey) ::
        [.discover {} (.flag column.name)]) column.name = some (.reported (.scalar .int)) := by
      rw [decision?_seed_cons, if_neg unread]
      exact decision?_flag admitted {}
    exact free [.discover {} (.flag column.name)] { name := column.name, type := .scalar .int }
      (mem_shown_seed_iff.2 reported) column held rfl
  · obtain ⟨unread, admitted⟩ := apart history field inside
    obtain ⟨other, listed, reads⟩ := covered column held (same ▸ admitted)
    exact unread (List.mem_map.2 ⟨other, listed, reads.trans same.symm⟩)

/-- Two columns, each of which is read from a field with the name of the other. -/
def crossed : TableSettings where
  name := "loads"
  columns := [{ name := "sent", source := some "seen", type := .scalar .dateTime },
    { name := "seen", source := some "sent", type := .scalar .dateTime }]

/-- Columns with crossed names are never met by a reported field. -/
theorem crossed_shown_avoids_columns : Settings.check .regex { tables := [crossed] } = .ok () ∧
    ∃ tracker, ofTable .regex crossed = .ok tracker ∧
      ∀ history, ∀ field ∈ tracker.shown history, ∀ column ∈ crossed.columns,
        field.name ≠ column.name := by
  have valid : Settings.check .regex { tables := [crossed] } = .ok () := by decide
  obtain ⟨tracker, made, -, free⟩ :=
    shown_avoids_columns .regex { tables := [crossed] } valid crossed List.mem_cons_self
  have covered : ∀ column ∈ crossed.columns,
      ∃ other ∈ crossed.columns, other.sourceKey = column.name := by decide
  exact ⟨valid, tracker, made, free.2 fun column held _ => covered column held⟩

/-- A column that is read from a field of another name. -/
def renamed : TableSettings where
  name := "loads"
  columns := [{ name := "ts", source := some "@timestamp", type := .scalar .dateTime }]

/-- A field with the name of a renamed column is reported as new. -/
theorem renamed_shows_column : Settings.check .regex { tables := [renamed] } = .ok () ∧
    ∃ tracker, ofTable .regex renamed = .ok tracker ∧
      ∃ history, ∃ field ∈ tracker.shown history, ∃ column ∈ renamed.columns,
        field.name = column.name :=
  ⟨by decide, _, rfl, [.discover {} (.flag "ts")], { name := "ts", type := .scalar .int },
    by decide, _, List.mem_cons_self, rfl⟩

end SchemaTracker

end Intake
