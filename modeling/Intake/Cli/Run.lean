import Intake.Batch.Pool
import Intake.Cli.Message
import Intake.Record.Reader
import Intake.Settings.Reader
import Intake.Text.Lines

/-!
# Running a command

A run prints messages and ends well, with a failure, or by a mistake in how it was asked for. What
it does depends on its inputs alone. Failures that concern one record are messages and do not end
it.
-/

namespace Intake

namespace Cli

/-- What a run can read, and what it is built on. -/
structure Inputs where
  /-- The contents of a file, if there is such a file. -/
  file : String → Option (List UInt8)
  /-- The standard input. -/
  standard : List UInt8
  platform : Platform := .standard

/-- How a run ends. -/
inductive Ending where
  | done
  | failed (cause : Failure)
  /-- What was asked for is beyond what the program can hold. -/
  | refused (misuse : Misuse)

/-- A run: what it prints, and how it ends. -/
structure Run where
  messages : List Message := []
  ending : Ending := .done

namespace Run

/-- A run that fails before it prints anything. -/
def failed (cause : Failure) : Run := { ending := .failed cause }

/-- A run that needs a value first. -/
def after {α : Type} (value : Except Failure α) (run : α → Run) : Run :=
  match value with
  | .ok value => run value
  | .error cause => failed cause

end Run

/-- The settings that a run uses: those of its file, or the default ones. -/
def Inputs.settings (inputs : Inputs) (config : Option String) : Except Failure Settings :=
  match config with
  | none => .ok {}
  | some path =>
    let unreadable := fun problem : InputProblem =>
      Failure.configuration ("Failed to read config file '" ++ path ++ "': " ++ problem.message)
    match inputs.file path with
    | none => .error (unreadable .missing)
    | some bytes =>
      match Utf8.decode? bytes with
      | none => .error (unreadable .notText)
      | some text => Settings.read inputs.platform (String.ofList text)

/-- The lines of a command's input. -/
def Inputs.lines (inputs : Inputs) (command : Command) : Except Failure InputLines :=
  match command.inputFile? with
  | none => .ok (.ofBytes inputs.standard)
  | some path =>
    match inputs.file path with
    | some bytes => .ok (.ofBytes bytes)
    | none =>
      .error ((Failure.input .missing).inContext ("Failed to open input '" ++ path ++ "'"))

/-- How a run over lines ends, once all lines were seen. -/
def endingOf (lines : InputLines) : Ending :=
  if lines.complete then .done else .failed (.input .notText)

/-!
## Discovery
-/

/-- What a discovery has found so far. -/
structure Progress where
  tracker : SchemaTracker
  records : Nat := 0
  malformed : Nat := 0

namespace Progress

/-- Look at the record of a line. -/
def look (reader : LayoutReader) (progress : Progress) (line : InputLine) : Progress :=
  match Record.read line.bytes with
  | .ok record =>
    { progress with
      tracker := (progress.tracker.discover reader record).2
      records := progress.records + 1 }
  | .error _ => { progress with malformed := progress.malformed + 1 }

/-- Look at the records of a batch of lines. -/
def lookAll (reader : LayoutReader) (progress : Progress) (batch : List InputLine) : Progress :=
  batch.foldl (look reader) progress

/-- The message about what was found. -/
def message (progress : Progress) (table : String) : Message :=
  .newFields table progress.records progress.malformed progress.tracker.drain.1

end Progress

/-- Lines in batches of some size; the last batch may be smaller. -/
def batches (size : Nat) (batch : List InputLine) : List InputLine → List (List InputLine)
  | [] => if batch = [] then [] else [batch.reverse]
  | line :: rest =>
    if batch.length + 1 < size then batches size (line :: batch) rest
    else (line :: batch).reverse :: batches size [] rest

/-- The room that a line takes in a batch, and the room there is, in bytes. -/
def lineRoom : Nat := 24
@[inherit_doc lineRoom]
def totalRoom : Nat := 0x7FFFFFFFFFFFFFFF

/-- The batches fit into memory and the workers can be counted. -/
def checkSizes (workers batch : Nat) : Except Misuse Unit := do
  let _ ← (TaskPool.create workers : Except Misuse (TaskPool Unit))
  if totalRoom < max batch 1 * lineRoom then throw .noRoom

/-- Find the fields that a table does not have. -/
def discover (inputs : Inputs) (settings : Settings) (command : Command) (table : String)
    (workers batch : Nat) : Run :=
  let prepared : Except Failure (TableSettings × ReadContext × SchemaTracker) := do
    let table ← settings.table table
    let context ← settings.context
    pure (table, context, ← SchemaTracker.ofTable inputs.platform.patterns table)
  Run.after prepared fun (_, context, tracker) =>
    match checkSizes workers batch with
    | .error misuse => { ending := .refused misuse }
    | .ok () =>
      Run.after (inputs.lines command) fun lines =>
        if lines.complete then
          let progress :=
            (batches (max batch 1) [] lines.filled).foldl (Progress.lookAll context.reader)
              { tracker := tracker }
          { messages := [progress.message table] }
        else { ending := endingOf lines }

/-!
## Record by record
-/

/-- Print a message for each line, with what is remembered handed from line to line. -/
def printEach (print : InputLine → Remembering (Except Misuse Message)) :
    List InputLine → LayoutCache → List Message × Option Misuse
  | [], _ => ([], none)
  | line :: rest, cache =>
    match print line cache with
    | (.ok message, cache) =>
      let (messages, misuse) := printEach print rest cache
      (message :: messages, misuse)
    | (.error misuse, _) => ([], some misuse)

/-- Print a message for the record of each line; lines that hold no record are reported. -/
def overRecords (lines : InputLines)
    (print : InputLine → Record → Remembering (Except Misuse Message)) : Run :=
  let printLine := fun (line : InputLine) (cache : LayoutCache) =>
    match Record.read line.bytes with
    | .ok record => print line record cache
    | .error cause => (.ok (.skipped line.number cause), cache)
  let (messages, misuse) := printEach printLine lines.filled .empty
  { messages := messages
    ending := match misuse with
      | some misuse => .refused misuse
      | none => endingOf lines }

/-- Print the row of each record. -/
def extract (inputs : Inputs) (settings : Settings) (command : Command) (table : String) : Run :=
  let prepared : Except Failure (TableSettings × ReadContext × InputLines) := do
    let table ← settings.table table
    let context ← settings.context
    pure (table, context, ← inputs.lines command)
  Run.after prepared fun (settings, context, lines) =>
    overRecords lines fun _ record => do
      match ← (record.extractRow context settings.columns).run with
      | .ok values => pure (.ok (.row table ((settings.columns.map Column.name).zip values)))
      | .error misuse => pure (.error misuse)

/-- Print the field types of each record. -/
def detect (inputs : Inputs) (settings : Settings) (command : Command) : Run :=
  let prepared : Except Failure (ReadContext × InputLines) := do
    let context ← settings.context
    pure (context, ← inputs.lines command)
  Run.after prepared fun (context, lines) =>
    overRecords lines fun line record =>
      let types := record.entries.map fun (name, value) => (name, value.detectType context.reader)
      pure (.ok (.recordTypes line.number types))

/-!
## All commands
-/

/-- Read one date-time. -/
def datetime (settings : Settings) (value : String) : Run :=
  Run.after settings.context fun context =>
    match context.reader.read? value with
    | some (instant, layout) =>
      { messages := [.matched value instant layout context.reader.zone] }
    | none => { messages := [.unmatched value] }

/-- The run of an invocation. -/
def Invocation.run (invocation : Invocation) (inputs : Inputs) : Run :=
  Run.after (inputs.settings invocation.config) fun settings =>
    match invocation.command with
    | .discover table _ workers batch =>
      discover inputs settings invocation.command table workers batch
    | .extract table _ => extract inputs settings invocation.command table
    | .detect _ => detect inputs settings invocation.command
    | .datetime value => datetime settings value
    | .layouts => { messages := [.layouts settings.zone settings.layoutList] }

end Cli

end Intake
