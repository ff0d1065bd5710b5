import Intake.Proofs.Settings.Validate
import Intake.Proofs.Text.Trim

/-!
# The faults of settings

What settings must be is said by `Settings.Valid`, and what is wrong with settings that are not
valid by `Settings.faults`: every check that fails gives its failure, in the order of the checks,
however many fail. The checks themselves stop at the first failure. `Settings.check_finds_first`
says that they pass settings exactly where these are valid, and that they fail with the first fault
of all.
-/

namespace Intake

/-! ## Valid settings -/

/-- A table can be used with an engine for patterns. -/
structure TableSettings.Valid (engine : PatternEngine) (table : TableSettings) : Prop where
  named : table.name ≠ ""
  /-- Both patterns can be compiled, where they are given. -/
  allow : ∀ pattern, table.allow = some pattern → (engine.compile? pattern).isSome = true
  deny : ∀ pattern, table.deny = some pattern → (engine.compile? pattern).isSome = true
  columnsNamed : ∀ column ∈ table.columns, column.name ≠ ""
  columnsDistinct : (table.columns.map Column.name).Nodup
  columnsTyped : ∀ column ∈ table.columns, column.type ≠ .unknown

/-- Settings can be used with an engine for patterns. -/
structure Settings.Valid (engine : PatternEngine) (settings : Settings) : Prop where
  epoch : ∀ text, settings.epoch = some text → ∃ instant, Rfc3339.instant text = .ok instant
  layoutsGiven : settings.layouts ≠ some []
  /-- No layout is blank when the blanks around it are left out. -/
  layoutsVisible : ∀ texts, settings.layouts = some texts → ∀ text ∈ texts, trim text.toList ≠ []
  tablesDistinct : (settings.tables.map TableSettings.name).Nodup
  tables : ∀ table ∈ settings.tables, table.Valid engine

/-! ## Faults -/

/-- A fault where a condition holds. -/
def faultIf (condition : Prop) [Decidable condition] (fault : Failure) : List Failure :=
  if condition then [fault] else []

/-- The fault of a pattern that cannot be compiled. -/
def patternFaults (engine : PatternEngine) : Option String → List Failure
  | none => []
  | some pattern => faultIf ((engine.compile? pattern).isNone = true) (.pattern pattern)

/-- The faults of a column that comes after others. -/
def columnFaults (table : String) (before : List Column) (column : Column) : List Failure :=
  faultIf (column.name = "")
      (.configuration ("Table '" ++ table ++ "' has a column with an empty name")) ++
    faultIf (column.name ∈ before.map Column.name)
      (.configuration ("Table '" ++ table ++ "' has duplicate column '" ++ column.name ++ "'")) ++
    faultIf (column.type = .unknown)
      (.configuration
        ("Column '" ++ table ++ "." ++ column.name ++ "' cannot have type 'unknown'"))

/-- The faults of a table: its name, its patterns, and its columns in order. -/
def TableSettings.faults (engine : PatternEngine) (table : TableSettings) : List Failure :=
  faultIf (table.name = "") (.configuration "Table name cannot be empty") ++
    patternFaults engine table.allow ++ patternFaults engine table.deny ++
    table.columns.zipIdx.flatMap fun (column, place) =>
      columnFaults table.name (table.columns.take place) column

/-- The fault of an epoch that is no strict date-time. -/
def epochFaults : Option String → List Failure
  | none => []
  | some text =>
    match Rfc3339.instant text with
    | .ok _ => []
    | .error fault => [.setting "epoch_sentinel" fault.message]

/-- The faults of a list of layouts. -/
def layoutFaults : Option (List String) → List Failure
  | none => []
  | some texts =>
    faultIf (texts = []) (.setting "layouts" "must not be empty") ++
      faultIf (∃ text ∈ texts, trim text.toList = []) (.setting "layouts" "layout cannot be blank")

/-- The faults of settings: their epoch, their layouts, their tables as a whole, and table by
table. -/
def Settings.faults (engine : PatternEngine) (settings : Settings) : List Failure :=
  epochFaults settings.epoch ++ layoutFaults settings.layouts ++
    faultIf (¬(settings.tables.map TableSettings.name).Nodup)
      (.configuration "Duplicate table names found") ++
    settings.tables.flatMap (TableSettings.faults engine)

/-! ## The first fault -/

/-- The outcome of checks that look for faults in order. -/
def firstFault : List Failure → Except Failure Unit
  | [] => .ok ()
  | fault :: _ => .error fault

/-- A step that finds some faults, before checks that find others. -/
theorem bind_eq_firstFault_append {α : Type} {step : Except Failure α} {next : Except Failure Unit}
    {faults others : List Failure} (finds : step.map (fun _ => ()) = firstFault faults)
    (then_ : next = firstFault others) :
    (step >>= fun _ => next) = firstFault (faults ++ others) := by
  subst then_
  cases faults with
  | nil =>
    cases step with
    | ok value => rfl
    | error failure => cases finds
  | cons fault rest =>
    cases step with
    | ok value => cases finds
    | error failure =>
      cases finds
      rfl

theorem map_unit_firstFault (faults : List Failure) :
    (firstFault faults).map (fun _ => ()) = firstFault faults := by
  cases faults <;> rfl

theorem firstFault_eq_ok_iff {faults : List Failure} :
    firstFault faults = .ok () ↔ faults = [] := by
  cases faults <;> simp [firstFault]

theorem faultIf_eq_nil_iff {condition : Prop} [Decidable condition] {fault : Failure} :
    faultIf condition fault = [] ↔ ¬condition := by
  by_cases holds : condition <;> simp [faultIf, holds]

theorem firstFault_eq_error_iff {faults : List Failure} {failure : Failure} :
    firstFault faults = .error failure ↔ faults.head? = some failure := by
  cases faults <;> simp [firstFault]

/-- A check that refuses at once finds a fault before all others. -/
theorem firstFault_faultIf_append (condition : Prop) [Decidable condition] (fault : Failure)
    (others : List Failure) : firstFault (faultIf condition fault ++ others) =
      if condition then .error fault else firstFault others := by
  by_cases holds : condition <;> simp [faultIf, holds, firstFault]

/-- Checks of several items in a row find the faults of the items in order. -/
theorem forM_eq_firstFault {α : Type} {check : α → Except Failure Unit} {faults : α → List Failure}
    {items : List α} (each : ∀ item ∈ items, check item = firstFault (faults item)) :
    items.forM check = firstFault (items.flatMap faults) := by
  induction items with
  | nil => rfl
  | cons item rest ih =>
    obtain ⟨first, others⟩ := List.forall_mem_cons.1 each
    rw [List.flatMap_cons, ← bind_eq_firstFault_append (map_unit_firstFault _) (ih others), ← first]
    rfl

/-! ## What each check finds -/

theorem epochOf_eq_firstFault (text : Option String) :
    (Settings.epochOf text).map (fun _ => ()) = firstFault (epochFaults text) := by
  cases text with
  | none => rfl
  | some text =>
    unfold Settings.epochOf epochFaults
    dsimp only
    cases Rfc3339.instant text <;> rfl

theorem checkLayouts_eq_firstFault (layouts : Option (List String)) :
    checkLayouts layouts = firstFault (layoutFaults layouts) := by
  cases layouts with
  | none => rfl
  | some texts =>
    have blank : texts.any isBlankText = true ↔ ∃ text ∈ texts, trim text.toList = [] := by
      simp [isBlankText, trim_eq_nil_iff]
    dsimp only [checkLayouts, layoutFaults]
    rw [firstFault_faultIf_append, if_congr blank rfl rfl, ← List.append_nil (faultIf (∃ _, _) _),
      firstFault_faultIf_append]
    rfl

/-- A filter cannot be made for the first of its patterns that cannot be compiled. -/
theorem filter_eq_firstFault (engine : PatternEngine) (table : TableSettings) :
    (table.filter engine).map (fun _ => ()) =
      firstFault (patternFaults engine table.allow ++ patternFaults engine table.deny) := by
  have compiled (pattern : Option String) :
      (KeyFilter.compile engine pattern).map (fun _ => ()) =
        firstFault (patternFaults engine pattern) := by
    cases pattern with
    | none => rfl
    | some pattern =>
      dsimp only [KeyFilter.compile, patternFaults]
      cases engine.compile? pattern <;> rfl
  rw [← bind_eq_firstFault_append (compiled table.allow) (compiled table.deny),
    TableSettings.filter, KeyFilter.ofPatterns]
  cases KeyFilter.compile engine table.allow with
  | error failure => rfl
  | ok allow => cases KeyFilter.compile engine table.deny <;> rfl

/-- Columns are checked against the names of all columns before them. -/
theorem checkColumns_eq_firstFault (table : String) (before rest : List Column)
    (seen : List String) (isSeen : ∀ name, name ∈ seen ↔ name ∈ before.map Column.name) :
    checkColumns table seen rest =
      firstFault ((rest.zipIdx before.length).flatMap fun (column, place) =>
        columnFaults table ((before ++ rest).take place) column) := by
  induction rest generalizing before seen with
  | nil => rfl
  | cons column rest ih =>
    have later := ih (before ++ [column]) (column.name :: seen) fun name => by
      simp [isSeen, or_comm, eq_comm]
    rw [List.length_append, List.length_singleton, List.append_assoc, List.singleton_append]
      at later
    have earlier : (before ++ column :: rest).take before.length = before := List.take_left' rfl
    rw [List.zipIdx_cons, List.flatMap_cons, checkColumns, later]
    simp only [columnFaults, earlier, List.append_assoc, firstFault_faultIf_append,
      List.contains_eq_mem, isSeen, decide_eq_true_eq]

/-- A table is refused for its first fault. -/
theorem TableSettings.check_eq_firstFault (engine : PatternEngine) (table : TableSettings) :
    table.check engine = firstFault (table.faults engine) := by
  have columns := checkColumns_eq_firstFault table.name [] table.columns [] fun _ => Iff.rfl
  have others := bind_eq_firstFault_append (filter_eq_firstFault engine table) columns
  unfold faults
  rw [List.append_assoc, List.append_assoc, firstFault_faultIf_append, ← List.append_assoc]
  exact others ▸ rfl

/-- Settings are refused for their first fault. -/
theorem Settings.check_eq_firstFault (engine : PatternEngine) (settings : Settings) :
    settings.check engine = firstFault (settings.faults engine) := by
  have tables : settings.tables.forM (TableSettings.check engine) = _ :=
    forM_eq_firstFault fun table _ => table.check_eq_firstFault engine
  have distinct := firstFault_faultIf_append (¬(settings.tables.map TableSettings.name).Nodup)
    (.configuration "Duplicate table names found")
    (settings.tables.flatMap (TableSettings.faults engine))
  have layouts := bind_eq_firstFault_append ((congrArg _ (checkLayouts_eq_firstFault
    settings.layouts)).trans (map_unit_firstFault _)) distinct.symm
  unfold faults
  rw [List.append_assoc, List.append_assoc,
    ← bind_eq_firstFault_append (epochOf_eq_firstFault settings.epoch) layouts, ← tables]
  rfl

/-! ## Settings without faults -/

section

variable {engine : PatternEngine}

theorem patternFaults_eq_nil_iff {pattern : Option String} : patternFaults engine pattern = [] ↔
    ∀ text, pattern = some text → (engine.compile? text).isSome = true := by
  cases pattern with
  | none => simp [patternFaults]
  | some pattern => simp [patternFaults, faultIf_eq_nil_iff, Option.isSome_iff_ne_none]

theorem layoutFaults_eq_nil_iff {layouts : Option (List String)} : layoutFaults layouts = [] ↔
    layouts ≠ some [] ∧
      ∀ texts, layouts = some texts → ∀ text ∈ texts, trim text.toList ≠ [] := by
  cases layouts with
  | none => simp [layoutFaults]
  | some texts => simp [layoutFaults, faultIf_eq_nil_iff]

theorem Settings.exists_epochOf_iff {text : Option String} :
    (∃ epoch, epochOf text = .ok epoch) ↔
      ∀ given, text = some given → ∃ instant, Rfc3339.instant given = .ok instant := by
  cases text with
  | none => simp [epochOf]
  | some text => cases read : Rfc3339.instant text <;> simp [epochOf, read]

theorem TableSettings.exists_filter_iff {table : TableSettings} :
    (∃ filter, table.filter engine = .ok filter) ↔
      (∀ text, table.allow = some text → (engine.compile? text).isSome = true) ∧
        ∀ text, table.deny = some text → (engine.compile? text).isSome = true := by
  have found := filter_eq_firstFault engine table
  rw [← patternFaults_eq_nil_iff, ← patternFaults_eq_nil_iff, ← List.append_eq_nil_iff,
    ← firstFault_eq_ok_iff, ← found]
  cases table.filter engine <;> simp [Except.map]

theorem TableSettings.check_eq_ok_iff_valid {table : TableSettings} :
    table.check engine = .ok () ↔ table.Valid engine := by
  rw [check_eq_ok_iff, exists_filter_iff, checkColumns_eq_ok_iff]
  constructor
  · rintro ⟨named, ⟨allow, deny⟩, distinct, columns⟩
    exact ⟨named, allow, deny, fun column inside => (columns column inside).1, distinct,
      fun column inside => (columns column inside).2.2⟩
  · rintro ⟨named, allow, deny, columnsNamed, distinct, columnsTyped⟩
    exact ⟨named, ⟨allow, deny⟩, distinct, fun column inside =>
      ⟨columnsNamed column inside, List.not_mem_nil, columnsTyped column inside⟩⟩

theorem Settings.check_eq_ok_iff_valid {settings : Settings} :
    settings.check engine = .ok () ↔ settings.Valid engine := by
  simp only [check_eq_ok_iff, exists_epochOf_iff, checkLayouts_eq_firstFault, firstFault_eq_ok_iff,
    layoutFaults_eq_nil_iff, TableSettings.check_eq_ok_iff_valid]
  constructor
  · rintro ⟨epoch, ⟨given, visible⟩, distinct, tables⟩
    exact ⟨epoch, given, visible, distinct, tables⟩
  · rintro ⟨epoch, given, visible, distinct, tables⟩
    exact ⟨epoch, ⟨given, visible⟩, distinct, tables⟩

end

/-- The checks pass settings exactly where these are valid, and otherwise fail with the first of all
faults that the settings have, whatever patterns mean. -/
theorem Settings.check_finds_first (engine : PatternEngine) (settings : Settings) :
    (settings.check engine = .ok () ↔ settings.Valid engine) ∧
      ∀ failure, settings.check engine = .error failure ↔
        (settings.faults engine).head? = some failure := by
  refine ⟨check_eq_ok_iff_valid, fun failure => ?_⟩
  rw [check_eq_firstFault, firstFault_eq_error_iff]

/-- Of a blank layout, a table that is defined twice and tables without a name, the layout is
reported. -/
example : Settings.check .regex
    { layouts := some ["rfc3339", " "]
      tables := [{ name := "" }, { name := "" }] } =
    .error (.setting "layouts" "layout cannot be blank") := by decide

end Intake
