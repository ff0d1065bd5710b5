import Intake.Schema.Tracker

/-!
# Validating settings

The checks run in a fixed order, and the first that fails gives the failure: the epoch, the layouts,
the table names as a whole, and then table by table the name, the patterns and the columns.
-/

namespace Intake

/-- Check columns in order against the names before them. -/
def checkColumns (table : String) : List String → List Column → Except Failure Unit
  | _, [] => .ok ()
  | seen, column :: rest =>
    if column.name = "" then
      .error (.configuration ("Table '" ++ table ++ "' has a column with an empty name"))
    else if seen.contains column.name then
      .error (.configuration
        ("Table '" ++ table ++ "' has duplicate column '" ++ column.name ++ "'"))
    else if column.type = .unknown then
      .error (.configuration
        ("Column '" ++ table ++ "." ++ column.name ++ "' cannot have type 'unknown'"))
    else checkColumns table (column.name :: seen) rest

/-- Check a table. -/
def TableSettings.check (engine : PatternEngine) (table : TableSettings) : Except Failure Unit := do
  if table.name = "" then throw (.configuration "Table name cannot be empty")
  let _ ← table.filter engine
  checkColumns table.name [] table.columns

/-- Check a list of layouts. -/
def checkLayouts : Option (List String) → Except Failure Unit
  | none => .ok ()
  | some texts =>
    if texts = [] then .error (.setting "layouts" "must not be empty")
    else if texts.any isBlankText then .error (.setting "layouts" "layout cannot be blank")
    else .ok ()

/-- Check settings. -/
def Settings.check (engine : PatternEngine) (settings : Settings) : Except Failure Unit := do
  let _ ← Settings.epochOf settings.epoch
  checkLayouts settings.layouts
  if ¬(settings.tables.map TableSettings.name).Nodup then
    throw (.configuration "Duplicate table names found")
  settings.tables.forM (TableSettings.check engine)

end Intake
