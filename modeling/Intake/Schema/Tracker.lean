import Intake.Schema.Discovery
import Intake.Settings.Basic

/-!
# Tracking the fields of a table
-/

namespace Intake

/-- The filter of a table. -/
def TableSettings.filter (engine : PatternEngine) (table : TableSettings) :
    Except Failure KeyFilter :=
  KeyFilter.ofPatterns engine table.allow table.deny

/-- A table with its filter and what was discovered for it. -/
structure SchemaTracker where
  table : String
  filter : KeyFilter := {}
  state : Discoveries := {}

namespace SchemaTracker

/-- The tracker of a table, whose columns are known by the fields they are read from. -/
def ofTable (engine : PatternEngine) (table : TableSettings) : Except Failure SchemaTracker := do
  let filter ← table.filter engine
  pure
    { table := table.name
      filter := filter
      state := ({} : Discoveries).seed (table.columns.map Column.sourceKey) }

/-- Mark names as decided. -/
def seed (tracker : SchemaTracker) (names : List String) : SchemaTracker :=
  { tracker with state := tracker.state.seed names }

/-- Look at all fields of a record: the answer says whether any became pending. -/
def discover (tracker : SchemaTracker) (reader : LayoutReader) (record : Record) :
    Bool × SchemaTracker :=
  let (found, state) := tracker.state.discover tracker.filter reader record
  (found, { tracker with state := state })

/-- Take the pending fields. -/
def drain (tracker : SchemaTracker) : List NewField × SchemaTracker :=
  let (fields, state) := tracker.state.drain
  (fields, { tracker with state := state })

end SchemaTracker

end Intake
