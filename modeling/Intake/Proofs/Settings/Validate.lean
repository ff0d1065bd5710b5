import Intake.Settings.Reader
import Mathlib.Data.List.Nodup

/-!
# What valid settings provide

The checks of settings stop at the first that fails, so settings that pass have passed every one of
them. `Settings.check_eq_ok_iff` says so for the settings as a whole, and for one table
`TableSettings.check_eq_ok_iff` does. In particular nothing that is made from valid settings later
on can fail: neither the context that records are read in nor the tracker of a table.
-/

namespace Intake

variable {ε α : Type}

theorem Except.bind_eq_ok_iff {β : Type} {first : Except ε α} {next : α → Except ε β} {result : β} :
    first >>= next = .ok result ↔ ∃ value, first = .ok value ∧ next value = .ok result := by
  cases first <;> simp [bind, Except.bind]

/-- Checks in a row pass where each of them passes. -/
theorem forM_eq_ok_iff {check : α → Except ε Unit} {items : List α} :
    items.forM check = .ok () ↔ ∀ item ∈ items, check item = .ok () := by
  induction items with
  | nil => simp [List.forM, pure, Except.pure]
  | cons item rest ih =>
    change (check item >>= fun _ => rest.forM check) = _ ↔ _
    rw [Except.bind_eq_ok_iff, List.forall_mem_cons, ← ih]
    exact ⟨fun ⟨⟨⟩, first, others⟩ => ⟨first, others⟩, fun ⟨first, others⟩ => ⟨(), first, others⟩⟩

/-- A check that only refuses passes where there is nothing to refuse. -/
theorem refuse_bind_eq_ok_iff {condition : Prop} [Decidable condition] {fault : ε}
    {next : Unit → Except ε α} {rest : Except ε α} {result : α} :
    (if condition then throw fault >>= next else rest) = .ok result ↔
      ¬condition ∧ rest = .ok result := by
  by_cases holds : condition <;>
    simp [holds, bind, Except.bind, throw, throwThe, MonadExceptOf.throw]

/-- Columns are valid where they have different names that are not empty and do not occur before,
and types that are known. -/
theorem checkColumns_eq_ok_iff {table : String} {seen : List String} {columns : List Column} :
    checkColumns table seen columns = .ok () ↔ (columns.map Column.name).Nodup ∧
      ∀ column ∈ columns, column.name ≠ "" ∧ column.name ∉ seen ∧ column.type ≠ .unknown := by
  induction columns generalizing seen with
  | nil => simp [checkColumns]
  | cons column rest ih =>
    unfold checkColumns
    by_cases unnamed : column.name = ""
    · simp [unnamed]
    by_cases repeated : column.name ∈ seen
    · simp [unnamed, repeated]
    by_cases untyped : column.type = .unknown
    · simp [unnamed, repeated, untyped]
    simp only [unnamed, untyped, List.contains_eq_mem, repeated, decide_false, if_false,
      Bool.false_eq_true, ih, List.map_cons, List.nodup_cons, List.mem_map, List.mem_cons, not_or,
      forall_eq_or_imp, ne_eq, not_false_eq_true, true_and, not_exists, not_and]
    constructor
    · rintro ⟨distinct, valid⟩
      exact ⟨⟨fun other inside => (valid other inside).2.1.1, distinct⟩,
        fun other inside => ⟨(valid other inside).1, (valid other inside).2.1.2,
          (valid other inside).2.2⟩⟩
    · rintro ⟨⟨fresh, distinct⟩, valid⟩
      exact ⟨distinct, fun other inside =>
        ⟨(valid other inside).1, ⟨fresh other inside, (valid other inside).2.1⟩,
          (valid other inside).2.2⟩⟩

section

variable {engine : PatternEngine} {platform : Platform}

/-- A table is valid where it has a name, its patterns can be used and its columns are valid. -/
theorem TableSettings.check_eq_ok_iff {table : TableSettings} :
    table.check engine = .ok () ↔ table.name ≠ "" ∧ (∃ filter, table.filter engine = .ok filter) ∧
      checkColumns table.name [] table.columns = .ok () := by
  change (if table.name = "" then _ else _) = _ ↔ _
  rw [refuse_bind_eq_ok_iff, Except.bind_eq_ok_iff, exists_and_right]

/-- Settings are valid where their epoch can be read, their layouts are valid, and their tables
have different names and are valid. -/
theorem Settings.check_eq_ok_iff {settings : Settings} :
    settings.check engine = .ok () ↔ (∃ epoch, Settings.epochOf settings.epoch = .ok epoch) ∧
      checkLayouts settings.layouts = .ok () ∧ (settings.tables.map TableSettings.name).Nodup ∧
      ∀ table ∈ settings.tables, table.check engine = .ok () := by
  unfold Settings.check
  simp only [Except.bind_eq_ok_iff]
  rw [exists_and_right]
  refine and_congr_right fun _ => ?_
  constructor
  · rintro ⟨⟨⟩, layouts, rest⟩
    obtain ⟨distinct, tables⟩ := refuse_bind_eq_ok_iff.1 rest
    exact ⟨layouts, Decidable.not_not.1 distinct, forM_eq_ok_iff.1 tables⟩
  · rintro ⟨layouts, distinct, tables⟩
    exact ⟨(), layouts, refuse_bind_eq_ok_iff.2 ⟨not_not_intro distinct, forM_eq_ok_iff.2 tables⟩⟩

/-- Settings that were read are those that the text holds, and valid. -/
theorem Settings.read_eq_ok_iff {text : String} {settings : Settings} :
    read platform text = .ok settings ↔
      decode platform text = .ok settings ∧ settings.check platform.patterns = .ok () := by
  unfold read
  simp only [Except.bind_eq_ok_iff]
  constructor
  · rintro ⟨decoded, isDecoded, ⟨⟩, valid, same⟩
    cases same
    exact ⟨isDecoded, valid⟩
  · rintro ⟨isDecoded, valid⟩
    exact ⟨settings, isDecoded, (), valid, rfl⟩

/-- Settings that were read are valid. -/
theorem Settings.check_of_read {text : String} {settings : Settings}
    (accepted : read platform text = .ok settings) : settings.check platform.patterns = .ok () :=
  (read_eq_ok_iff.1 accepted).2

/-- Valid settings give a context for records. -/
theorem Settings.exists_context {settings : Settings} (valid : settings.check engine = .ok ()) :
    ∃ context, settings.context = .ok context := by
  obtain ⟨⟨epoch, read⟩, -⟩ := Settings.check_eq_ok_iff.1 valid
  exact ⟨_, by rw [Settings.context, read]; rfl⟩

/-- A table that is found by its name is one of the settings' tables. -/
theorem Settings.mem_tables_of_table {settings : Settings} {name : String} {table : TableSettings}
    (found : settings.table name = .ok table) : table ∈ settings.tables ∧ table.name = name := by
  unfold Settings.table at found
  split at found
  · rename_i other here
    obtain rfl := Except.ok.inj found
    exact ⟨List.mem_of_find?_eq_some here, by simpa using List.find?_some here⟩
  · contradiction

/-- A table of valid settings is found by its name, since no other table has it. -/
theorem Settings.table_of_mem {settings : Settings} (valid : settings.check engine = .ok ())
    {table : TableSettings} (listed : table ∈ settings.tables) :
    settings.table table.name = .ok table := by
  obtain ⟨-, -, distinct, -⟩ := Settings.check_eq_ok_iff.1 valid
  unfold Settings.table
  cases found : settings.tables.find? fun other => other.name = table.name with
  | none => simpa using List.find?_eq_none.1 found table listed
  | some other =>
    have same : other.name = table.name := by simpa using List.find?_some found
    exact congrArg _
      (List.inj_on_of_nodup_map distinct (List.mem_of_find?_eq_some found) listed same)

/-- A valid table has a tracker: it knows the fields that columns are read from, and nothing is
pending. -/
theorem SchemaTracker.exists_ofTable {table : TableSettings} (valid : table.check engine = .ok ()) :
    ∃ filter, table.filter engine = .ok filter ∧
      SchemaTracker.ofTable engine table =
        .ok (seed { table := table.name, filter } (table.columns.map Column.sourceKey)) := by
  obtain ⟨-, ⟨filter, compiled⟩, -⟩ := TableSettings.check_eq_ok_iff.1 valid
  exact ⟨filter, compiled, by rw [ofTable, compiled]; rfl⟩

end

end Intake
