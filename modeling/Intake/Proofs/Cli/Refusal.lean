import Intake.Cli.Arguments
import Intake.Proofs.Cli.Records

/-!
# Runs that are refused

A run prints what it finds and ends well, or ends with a failure. The only other end is a refusal:
what was asked for is beyond what the program can hold. `Invocation.refused_iff` says when that is:
only discoveries are refused, only after their settings and their table were found, and only for
more workers than can be counted or for batches that no memory has room for. Memory that is
exhausted before that is no matter of these runs.
-/

namespace Intake

namespace Cli

section

variable {inputs : Inputs} {settings : Settings} {misuse : Misuse}

namespace Run

/-- A run that needs a value first is refused where it is refused with the value. -/
theorem refused_after_iff {α : Type} {value : Except Failure α} {run : α → Run} :
    (after value run).ending = .refused misuse ↔
      ∃ given, value = .ok given ∧ (run given).ending = .refused misuse := by
  cases value with
  | ok given => simp [after]
  | error cause => simp [after, failed]

end Run

theorem endingOf_ne_refused (lines : InputLines) : endingOf lines ≠ .refused misuse := by
  unfold endingOf
  split <;> exact nofun

/-- The sizes of a discovery are refused where there are too many workers, or else no room for a
batch. -/
theorem checkSizes_eq_error_iff {workers batch : Nat} :
    checkSizes workers batch = .error misuse ↔
      misuse = .tooManyWorkers ∧ TaskPool.greatestLimit < workers ∨
        misuse = .noRoom ∧ workers ≤ TaskPool.greatestLimit ∧
          totalRoom < max batch 1 * lineRoom := by
  unfold checkSizes TaskPool.create
  by_cases counted : workers ≤ TaskPool.greatestLimit
  · by_cases fits : totalRoom < max batch 1 * lineRoom
    · simp [counted, fits, Nat.not_lt.2 counted, bind, Except.bind, throw, throwThe,
        MonadExceptOf.throw, eq_comm]
    · simp [counted, fits, Nat.not_lt.2 counted, bind, Except.bind, pure, Except.pure]
  · simp [counted, Nat.not_le.1 counted, bind, Except.bind, eq_comm]

/-- A discovery is refused for its sizes, once its settings are prepared. -/
theorem discover_refused_iff (valid : settings.check inputs.platform.patterns = .ok ())
    {command : Command} {name : String} {workers batch : Nat} :
    (discover inputs settings command name workers batch).ending = .refused misuse ↔
      (∃ table, settings.table name = .ok table) ∧ checkSizes workers batch = .error misuse := by
  obtain ⟨context, made⟩ := Settings.exists_context valid
  obtain ⟨-, -, -, tables⟩ := Settings.check_eq_ok_iff.1 valid
  unfold discover
  cases found : settings.table name with
  | error cause => simp [Run.after, Run.failed, bind, Except.bind]
  | ok table =>
    obtain ⟨filter, -, tracks⟩ :=
      SchemaTracker.exists_ofTable (tables table (Settings.mem_tables_of_table found).1)
    simp only [made, tracks, Run.after, bind, Except.bind, pure, Except.pure]
    cases sizes : checkSizes workers batch with
    | error refusal => simp
    | ok fits =>
      cases given : inputs.lines command with
      | error cause => simp [Run.failed]
      | ok lines =>
        by_cases complete : lines.complete = true
        · simp [complete]
        · simp [complete, endingOf_ne_refused]

/-- No extraction is refused: the columns of valid settings have types. -/
theorem extract_not_refused {engine : PatternEngine} (valid : settings.check engine = .ok ())
    (command : Command) (name : String) :
    (extract inputs settings command name).ending ≠ .refused misuse := by
  obtain ⟨context, made⟩ := Settings.exists_context valid
  cases found : settings.table name with
  | error cause => simp [extract, found, Run.after, Run.failed, bind, Except.bind]
  | ok table =>
    cases given : inputs.lines command with
    | error cause =>
      simp [extract, found, made, given, Run.after, Run.failed, bind, Except.bind]
    | ok lines =>
      obtain ⟨listed, rfl⟩ := Settings.mem_tables_of_table found
      rw [(extract_reports valid listed made given).1]
      exact endingOf_ne_refused lines

theorem detect_not_refused (command : Command) :
    (detect inputs settings command).ending ≠ .refused misuse := by
  cases made : settings.context with
  | error cause => simp [detect, made, Run.after, Run.failed, bind, Except.bind]
  | ok context =>
    cases given : inputs.lines command with
    | error cause => simp [detect, made, given, Run.after, Run.failed, bind, Except.bind]
    | ok lines =>
      rw [(detect_reports made given).1]
      exact endingOf_ne_refused lines

theorem datetime_not_refused (value : String) :
    (datetime settings value).ending ≠ .refused misuse := by
  unfold datetime
  rw [Ne, Run.refused_after_iff]
  rintro ⟨context, -, refused⟩
  cases read : context.reader.read? value <;> simp [read] at refused

/-- The runs that are refused are those of discoveries whose settings load and have the table, for
more workers than can be counted, or else for batches for which there is no room. Every other run
ends well or with a failure, whatever its arguments, its files and its standard input are. -/
theorem Invocation.refused_iff (invocation : Invocation) (inputs : Inputs) (misuse : Misuse) :
    (invocation.run inputs).ending = .refused misuse ↔
      ∃ name input workers batch settings table,
        invocation.command = .discover name input workers batch ∧
        inputs.settings invocation.config = .ok settings ∧ settings.table name = .ok table ∧
        (misuse = .tooManyWorkers ∧ TaskPool.greatestLimit < workers ∨
          misuse = .noRoom ∧ workers ≤ TaskPool.greatestLimit ∧
            totalRoom < max batch 1 * lineRoom) := by
  unfold Invocation.run
  rw [Run.refused_after_iff]
  constructor
  · rintro ⟨settings, loaded, refused⟩
    have valid := Inputs.check_of_settings loaded
    cases asked : invocation.command with
    | discover name input workers batch =>
      simp only [asked] at refused
      obtain ⟨⟨table, found⟩, sizes⟩ := (discover_refused_iff valid).1 refused
      exact ⟨name, input, workers, batch, settings, table, rfl, loaded, found,
        checkSizes_eq_error_iff.1 sizes⟩
    | extract name input =>
      simp only [asked] at refused
      exact absurd refused (extract_not_refused valid _ name)
    | detect input =>
      simp only [asked] at refused
      exact absurd refused (detect_not_refused _)
    | datetime value =>
      simp only [asked] at refused
      exact absurd refused (datetime_not_refused value)
    | layouts => simp [asked] at refused
  · rintro ⟨name, input, workers, batch, settings, table, asked, loaded, found, sizes⟩
    refine ⟨settings, loaded, ?_⟩
    simp only [asked]
    exact (discover_refused_iff (Inputs.check_of_settings loaded)).2
      ⟨⟨table, found⟩, checkSizes_eq_error_iff.2 sizes⟩

/-- The arguments of a discovery of loads with some number of workers and some size of batches. -/
def discoverArguments (workers batch : String) : List String :=
  ["-C", "loads.yaml", "discover", "--table", "loads", "--workers", workers, "--batch-size", batch]

/-- The invocation that such arguments describe. -/
def discoverInvocation (workers batch : Nat) : Invocation :=
  { config := some "loads.yaml", command := .discover "loads" none workers batch }

theorem loads_refused {workers batch : Nat} (sizes : checkSizes workers batch = .error misuse) :
    ((discoverInvocation workers batch).run (loadsInputs "")).ending = .refused misuse := by
  have loaded := loadsInputs_settings ""
  rw [Invocation.run, Run.refused_after_iff]
  refine ⟨_, loaded, ?_⟩
  exact (discover_refused_iff (Inputs.check_of_settings loaded)).2 ⟨⟨_, rfl⟩, sizes⟩

/-- One worker more than can be counted, and batches with one line more than there is room for, are
understood when they are asked for, and the discoveries are refused. -/
theorem vast_discoveries_refused :
    (Invocation.ofArguments (discoverArguments "2305843009213693952" "256") =
        .ok (discoverInvocation 2305843009213693952 256) ∧
      ((discoverInvocation 2305843009213693952 256).run (loadsInputs "")).ending =
        .refused .tooManyWorkers) ∧
    Invocation.ofArguments (discoverArguments "4" "384307168202282326") =
        .ok (discoverInvocation 4 384307168202282326) ∧
      ((discoverInvocation 4 384307168202282326).run (loadsInputs "")).ending =
        .refused .noRoom := by
  refine ⟨⟨by decide +kernel, loads_refused ?_⟩, by decide +kernel, loads_refused ?_⟩
  · exact checkSizes_eq_error_iff.2 (.inl ⟨rfl, by decide⟩)
  · exact checkSizes_eq_error_iff.2 (.inr ⟨rfl, by decide, by decide⟩)

end

end Cli

end Intake
