import Intake.Proofs.Cli.Discover
import Intake.Proofs.Record.Idempotence

/-!
# One message for each line

The extract and the detect command print one message for each line that is not blank: what the
object on the line gives, or a warning with the number of the line. `reported_line_by_line` says so,
and that rows and types are those of the objects alone, one after the other: blank lines and lines
without an object may come and go, and only the numbers in warnings and beside types follow them.
-/

namespace Intake

namespace InputLines

/-- Lines are numbered by their places among all lines of the input. -/
theorem number_of_ofByteLines {number index : Nat} {bytes : List (List UInt8)} {line : InputLine}
    (there : (ofByteLines number bytes).lines[index]? = some line) :
    line.number = number + index := by
  induction bytes generalizing number index with
  | nil => simp [ofByteLines] at there
  | cons first rest ih =>
    unfold ofByteLines at there
    cases text : Utf8.decode? first with
    | none => simp [text] at there
    | some decoded =>
      simp only [text] at there
      cases index with
      | zero =>
        obtain rfl := Option.some.inj there
        rfl
      | succ index =>
        have later := ih there
        omega

/-- The records that lines hold, in their order. -/
def records (lines : InputLines) : List Record := lines.filled.filterMap Cli.lineRecord?

/-- The lines that hold an object, in their order. -/
def objects (lines : InputLines) : List (List UInt8) :=
  (lines.filled.filter Cli.holdsObject).map InputLine.bytes

/-- Inputs whose lines with an object are the same hold the same records. -/
theorem records_eq_of_objects {lines others : InputLines} (same : others.objects = lines.objects) :
    others.records = lines.records := by
  have read : ∀ lines : InputLines,
      lines.records = lines.objects.filterMap fun bytes => (Record.read bytes).toOption := by
    intro lines
    rw [records, objects, List.filterMap_map, List.filterMap_filter]
    apply List.filterMap_congr
    intro line _
    rw [← Cli.isSome_lineRecord?, Function.comp_apply, ← Cli.lineRecord?]
    cases Cli.lineRecord? line <;> rfl
  rw [read, read, same]

end InputLines

namespace Cli

/-- The settings that a run uses are valid. -/
theorem Inputs.check_of_settings {inputs : Inputs} {config : Option String} {settings : Settings}
    (loaded : inputs.settings config = .ok settings) :
    settings.check inputs.platform.patterns = .ok () := by
  unfold Inputs.settings at loaded
  split at loaded
  · obtain rfl := Except.ok.inj loaded
    rfl
  · split at loaded
    · contradiction
    · split at loaded
      · contradiction
      · exact Settings.check_of_read loaded

namespace Message

/-- The values of a row. -/
def row? : Message → Option (List (String × ColumnValue))
  | row _ values => some values
  | _ => none

/-- The types of a record's fields. -/
def types? : Message → Option (List (String × FieldType))
  | recordTypes _ fields => some fields
  | _ => none

/-- The JSON form has a type, and under some name an object with these members and no others. -/
def Shows (message : Message) (type name : String) (members : List (String × Json)) : Prop :=
  message.toJson.member? "type" = some (.string type) ∧
    ∃ sorted, message.toJson.member? name = some (.object sorted) ∧ sorted.Perm members

/-- A message shows the members that an object of its JSON form is made of. -/
theorem shows_of_members {message : Message} {type name : String} {members : List (String × Json)}
    (typed : message.toJson.member? "type" = some (.string type))
    (held : message.toJson.member? name = some (.ofMembers members))
    (distinct : (members.map Prod.fst).Nodup) : message.Shows type name members := by
  obtain ⟨sorted, object, same⟩ := Json.exists_ofMembers distinct
  exact ⟨typed, sorted, held.trans (congrArg some object), same⟩

/-- A row shows the value of each of its columns. -/
theorem shows_row (table : String) {values : List (String × ColumnValue)}
    (distinct : (values.map Prod.fst).Nodup) :
    (row table values).Shows "ROW" "row" (values.map fun value => (value.1, value.2.toJson)) := by
  apply shows_of_members
  · simp [toJson, Json.ofMembers, Json.member?, entryAt?_insertEntry]
  · simp [toJson, Json.ofMembers, Json.member?, entryAt?_insertEntry]
  · rwa [List.map_map]

/-- The types of a record show the type of each of its fields. -/
theorem shows_recordTypes (line : Nat) {fields : List (String × FieldType)}
    (distinct : (fields.map Prod.fst).Nodup) :
    (recordTypes line fields).Shows "RECORD_TYPES" "fields"
      (fields.map fun field => (field.1, .string field.2.name)) := by
  apply shows_of_members
  · simp [toJson, Json.ofMembers, Json.member?, entryAt?_insertEntry]
  · simp [toJson, Json.ofMembers, Json.member?, entryAt?_insertEntry]
  · rwa [List.map_map]

/-- What a warning about a line shows. -/
def warning (line : Nat) (cause : Failure) : List (String × Json) :=
  [("level", .string "WARN"),
    ("message", .string
      ("Skipping malformed record on line " ++ decimal line ++ ": " ++ cause.message))]

/-- A line that is passed over shows a warning with its number. -/
theorem shows_skipped (line : Nat) (cause : Failure) :
    (skipped line cause).Shows "LOG" "log" (warning line cause) := by
  apply shows_of_members
  · simp [toJson, Json.ofMembers, Json.member?, entryAt?_insertEntry]
  · simp [toJson, warning, Json.ofMembers, Json.member?, entryAt?_insertEntry]
  · simp [warning]

end Message

/-- What is printed about a line: what its object gives, or a warning with its number. -/
inductive Reports (gives : Record → Message → Prop) (line : InputLine) (message : Message) : Prop
    where
  | object {record} (holds : holdsObject line = true)
      (read : Record.read line.bytes = .ok record) (given : gives record message)
  | warning {cause} (fails : holdsObject line = false)
      (read : Record.read line.bytes = .error cause) (warns : message = .skipped line.number cause)
      (shown : message.Shows "LOG" "log" (Message.warning line.number cause))

/-- The message is the row of a table, with a member for each of its columns. -/
def IsRow (table : TableSettings) (message : Message) : Prop :=
  ∃ values, message = .row table.name values ∧
    values.map Prod.fst = table.columns.map Column.name ∧
    message.Shows "ROW" "row" (values.map fun value => (value.1, value.2.toJson))

/-- The message gives the type of each field of a record. -/
def GivesTypes (layouts : LayoutReader) (number : Nat) (record : Record) (message : Message) :
    Prop :=
  ∃ fields, message = .recordTypes number fields ∧
    fields = record.entries.map (fun entry => (entry.1, entry.2.detectType layouts)) ∧
    message.Shows "RECORD_TYPES" "fields" (fields.map fun field => (field.1, .string field.2.name))

section

variable {lines : InputLines} {print : InputLine → Record → Remembering (Except Misuse Message)}

/-- Print a message for the record of a line, or report that there is none. -/
def printLine (print : InputLine → Record → Remembering (Except Misuse Message))
    (line : InputLine) : Remembering (Except Misuse Message) := fun cache =>
  match Record.read line.bytes with
  | .ok record => print line record cache
  | .error cause => (.ok (.skipped line.number cause), cache)

theorem overRecords_eq (lines : InputLines)
    (print : InputLine → Record → Remembering (Except Misuse Message)) :
    overRecords lines print =
      { messages := (printEach (printLine print) lines.filled .empty).1
        ending := match (printEach (printLine print) lines.filled .empty).2 with
          | some misuse => .refused misuse
          | none => endingOf lines } := rfl

/-- A printer that has a message for every line prints one for each line. -/
theorem printEach_forall₂ {print : InputLine → Remembering (Except Misuse Message)}
    {fits : InputLine → Message → Prop}
    (prints : ∀ line cache, ∃ message, (print line cache).1 = .ok message ∧ fits line message)
    (lines : List InputLine) (cache : LayoutCache) :
    ∃ messages, printEach print lines cache = (messages, none) ∧
      List.Forall₂ fits lines messages := by
  induction lines generalizing cache with
  | nil => exact ⟨[], rfl, .nil⟩
  | cons line rest ih =>
    obtain ⟨message, printed, fit⟩ := prints line cache
    obtain ⟨messages, later, all⟩ := ih (print line cache).2
    refine ⟨message :: messages, ?_, .cons fit all⟩
    rw [printEach, ← Prod.mk.eta (p := print line cache), printed]
    simp [later]

/-- A printer that has a message for every record has a report for each line that is not blank, and
the run ends as its input does. -/
theorem overRecords_reports (gives : InputLine → Record → Message → Prop)
    (prints : ∀ line record cache, ∃ message,
      (print line record cache).1 = .ok message ∧ gives line record message) :
    (overRecords lines print).ending = endingOf lines ∧
      List.Forall₂ (fun line message => Reports (gives line) line message) lines.filled
        (overRecords lines print).messages := by
  have reports : ∀ line cache, ∃ message, (printLine print line cache).1 = .ok message ∧
      Reports (gives line) line message := by
    intro line cache
    have holds := isSome_lineRecord? line
    unfold printLine
    cases read : Record.read line.bytes with
    | ok record =>
      rw [lineRecord?_of_ok read] at holds
      obtain ⟨message, printed, given⟩ := prints line record cache
      exact ⟨message, printed, .object holds.symm read given⟩
    | error cause =>
      rw [lineRecord?_of_error read] at holds
      exact ⟨_, rfl, .warning holds.symm read rfl (Message.shows_skipped ..)⟩
  obtain ⟨messages, printed, all⟩ := printEach_forall₂ reports lines.filled .empty
  rw [overRecords_eq, printed]
  exact ⟨rfl, all⟩

/-- The rows that are printed for lines are those of the records that they hold, one after the
other. -/
theorem row?_printEach {context : ReadContext} {columns : List Column} {table : String}
    (known : ∀ column ∈ columns, column.type ≠ .unknown)
    (prints : ∀ line (record : Record) cache values after,
      (record.extractRow context columns).run cache = (.ok values, after) →
      print line record cache =
        (.ok (.row table ((columns.map Column.name).zip values)), after))
    (lines : List InputLine) (cache : LayoutCache) :
    (printEach (printLine print) lines cache).1.filterMap Message.row? =
      (extractRows context columns (lines.filterMap lineRecord?) cache).1.filterMap fun row =>
        row.toOption.map ((columns.map Column.name).zip) := by
  induction lines generalizing cache with
  | nil => rfl
  | cons line rest ih =>
    cases read : Record.read line.bytes with
    | error cause =>
      have here : printLine print line cache = (.ok (.skipped line.number cause), cache) := by
        rw [printLine, read]
      rw [List.filterMap_cons, lineRecord?_of_error read, printEach, here]
      exact ih cache
    | ok record =>
      obtain ⟨values, after, ran, -⟩ := record.extractRow_succeeds context known cache
      have here : printLine print line cache =
          (.ok (.row table ((columns.map Column.name).zip values)), after) := by
        rw [printLine, read]
        exact prints line record cache values after ran
      have rows : (extractRows context columns (record :: rest.filterMap lineRecord?) cache).1 =
          .ok values :: (extractRows context columns (rest.filterMap lineRecord?) after).1 := by
        simp only [extractRows, Remembering.bind_apply, ran]
        rfl
      rw [List.filterMap_cons, lineRecord?_of_ok read, printEach, here, rows]
      simpa [Message.row?, Except.toOption] using ih after

end

/-- Print the row of a record. -/
def printRow (context : ReadContext) (table : TableSettings) (record : Record) :
    Remembering (Except Misuse Message) := do
  match ← (record.extractRow context table.columns).run with
  | .ok values => pure (.ok (.row table.name ((table.columns.map Column.name).zip values)))
  | .error misuse => pure (.error misuse)

theorem printRow_eq {context : ReadContext} {table : TableSettings} {record : Record}
    {cache after : LayoutCache} {values : List ColumnValue}
    (ran : (record.extractRow context table.columns).run cache = (.ok values, after)) :
    printRow context table record cache =
      (.ok (.row table.name ((table.columns.map Column.name).zip values)), after) := by
  rw [printRow, Remembering.bind_apply, ran]
  rfl

section

variable {engine : PatternEngine} {inputs : Inputs} {settings : Settings} {context : ReadContext}
  {lines : InputLines} {table : TableSettings} {command : Command}

/-- The columns of valid settings have distinct names. -/
theorem nodup_columns (valid : settings.check engine = .ok ())
    (listed : table ∈ settings.tables) : (table.columns.map Column.name).Nodup := by
  obtain ⟨-, -, -, tables⟩ := Settings.check_eq_ok_iff.1 valid
  obtain ⟨-, -, columns⟩ := TableSettings.check_eq_ok_iff.1 (tables table listed)
  exact (checkColumns_eq_ok_iff.1 columns).1

theorem extract_eq (found : settings.table table.name = .ok table)
    (made : settings.context = .ok context) (given : inputs.lines command = .ok lines) :
    extract inputs settings command table.name =
      overRecords lines fun _ record => printRow context table record := by
  simp only [extract, found, made, given, bind, Except.bind, pure, Except.pure, Run.after]
  rfl

/-- The extract command reports every line that is not blank. -/
theorem extract_reports (valid : settings.check engine = .ok ()) (listed : table ∈ settings.tables)
    (made : settings.context = .ok context) (given : inputs.lines command = .ok lines) :
    (extract inputs settings command table.name).ending = endingOf lines ∧
      List.Forall₂ (Reports fun _ => IsRow table) lines.filled
        (extract inputs settings command table.name).messages := by
  rw [extract_eq (Settings.table_of_mem valid listed) made given]
  refine overRecords_reports (fun _ _ => IsRow table) fun line record cache => ?_
  obtain ⟨values, after, ran, row, -⟩ :=
    record.extractRow_succeeds context (Settings.known_of_check valid listed) cache
  have names : ((table.columns.map Column.name).zip values).map Prod.fst =
      table.columns.map Column.name :=
    List.map_fst_zip (Nat.le_of_eq ((List.length_map _).trans row.length_eq))
  rw [printRow_eq ran]
  refine ⟨_, rfl, _, rfl, names, Message.shows_row table.name ?_⟩
  rw [names]
  exact nodup_columns valid listed

/-- The rows that are printed are those of the records of the input, one after the other. -/
theorem extract_rows (valid : settings.check engine = .ok ()) (listed : table ∈ settings.tables)
    (made : settings.context = .ok context) (given : inputs.lines command = .ok lines) :
    (extract inputs settings command table.name).messages.filterMap Message.row? =
      (extractRows context table.columns lines.records .empty).1.filterMap fun row =>
        row.toOption.map ((table.columns.map Column.name).zip) := by
  rw [extract_eq (Settings.table_of_mem valid listed) made given]
  exact row?_printEach (Settings.known_of_check valid listed)
    (fun _ _ _ _ _ ran => printRow_eq ran) lines.filled .empty

/-- The detect command reports every line that is not blank. -/
theorem detect_reports (made : settings.context = .ok context)
    (given : inputs.lines command = .ok lines) :
    (detect inputs settings command).ending = endingOf lines ∧
      List.Forall₂ (fun line message =>
          Reports (GivesTypes context.reader line.number) line message)
        lines.filled (detect inputs settings command).messages := by
  simp only [detect, made, given, bind, Except.bind, pure, Except.pure, Run.after]
  refine overRecords_reports (fun line => GivesTypes context.reader line.number)
    fun line record cache => ⟨_, rfl, _, rfl, rfl, Message.shows_recordTypes _ ?_⟩
  rw [List.map_map]
  exact record.distinct

/-- The types that are printed are those of the fields of each record of the input. -/
theorem detect_types (made : settings.context = .ok context)
    (given : inputs.lines command = .ok lines) :
    (detect inputs settings command).messages.filterMap Message.types? =
      lines.records.map fun record =>
        record.entries.map fun entry => (entry.1, entry.2.detectType context.reader) := by
  rw [detect_messages made given, List.filterMap_map, InputLines.records, List.map_filterMap]
  apply List.filterMap_congr
  intro line _
  rw [Function.comp_apply, detectedOn]
  cases read : Record.read line.bytes with
  | ok record =>
    rw [lineRecord?_of_ok read]
    rfl
  | error cause =>
    rw [lineRecord?_of_error read]
    rfl

end

/-- The extract and the detect command on settings that load, a table of theirs and an input of
UTF-8 lines.

Both end well and print one message for each line that is not blank, in the order of the lines. For
a line that holds an object the message is the row of the table, with a member for each column and
no other, or gives the type of each field of the object and of no other. For any other line it is a
warning with the number of the line among all lines of the input, counted from one. The rows, and
the types that are given, are the same for every input in which the lines with an object are the
same, whatever blank lines and lines without an object stand between them. -/
theorem reported_line_by_line {inputs : Inputs} {config : Option String} {settings : Settings}
    {name : String} {table : TableSettings} {input : Option String} {lines : InputLines}
    (loaded : inputs.settings config = .ok settings) (found : settings.table name = .ok table)
    (given : inputs.lines (.extract name input) = .ok lines) (complete : lines.complete = true)
    (format : Format) (verbose : Bool) :
    let extraction : Invocation :=
      { config := config, format := format, verbose := verbose, command := .extract name input }
    let detection : Invocation :=
      { config := config, format := format, verbose := verbose, command := .detect input }
    (∀ (index : Nat) line, lines.lines[index]? = some line → line.number = index + 1) ∧
    (extraction.run inputs).ending = .done ∧
    List.Forall₂ (Reports fun _ => IsRow table) lines.filled (extraction.run inputs).messages ∧
    (detection.run inputs).ending = .done ∧
    (∃ context, settings.context = .ok context ∧
      List.Forall₂ (fun line message =>
          Reports (GivesTypes context.reader line.number) line message)
        lines.filled (detection.run inputs).messages) ∧
    ∀ (others : Inputs) otherLines, others.settings config = .ok settings →
      others.lines (.extract name input) = .ok otherLines → otherLines.objects = lines.objects →
      (extraction.run others).messages.filterMap Message.row? =
          (extraction.run inputs).messages.filterMap Message.row? ∧
        (detection.run others).messages.filterMap Message.types? =
          (detection.run inputs).messages.filterMap Message.types? := by
  intro extraction detection
  have valid := Inputs.check_of_settings loaded
  obtain ⟨listed, rfl⟩ := Settings.mem_tables_of_table found
  obtain ⟨context, made⟩ := Settings.exists_context valid
  have extracts : ∀ inputs : Inputs, inputs.settings config = .ok settings →
      extraction.run inputs = extract inputs settings (.extract table.name input) table.name :=
    fun inputs loaded => by rw [Invocation.run, loaded]; rfl
  have detects : ∀ inputs : Inputs, inputs.settings config = .ok settings →
      detection.run inputs = detect inputs settings (.detect input) :=
    fun inputs loaded => by rw [Invocation.run, loaded]; rfl
  have ends : endingOf lines = .done := by rw [endingOf, complete]; rfl
  obtain ⟨extractEnds, rows⟩ := extract_reports valid listed made given
  have detectGiven : inputs.lines (.detect input) = .ok lines := given
  obtain ⟨detectEnds, types⟩ := detect_reports made detectGiven
  rw [extracts inputs loaded, detects inputs loaded]
  refine ⟨fun index line there => ?_, extractEnds.trans ends, rows, detectEnds.trans ends,
    ⟨context, made, types⟩, fun others otherLines otherLoaded otherGiven same => ?_⟩
  · obtain ⟨bytes, rfl⟩ := Inputs.exists_ofBytes given
    rw [InputLines.number_of_ofByteLines there, Nat.add_comm]
  · have otherDetects : others.lines (.detect input) = .ok otherLines := otherGiven
    rw [extracts others otherLoaded, detects others otherLoaded,
      extract_rows valid listed made otherGiven, extract_rows valid listed made given,
      detect_types made otherDetects, detect_types made detectGiven,
      InputLines.records_eq_of_objects same]
    exact ⟨rfl, rfl⟩

/-- The settings of loads in a file, and lines on the standard input. -/
def loadsInputs (text : String) : Inputs where
  file path := if path = "loads.yaml" then some (Utf8.encode Settings.loadsText.toList) else none
  standard := Utf8.encode text.toList

theorem loadsInputs_settings (text : String) :
    (loadsInputs text).settings (some "loads.yaml") = .ok Settings.loads := by
  have decoded : Utf8.decode? (Utf8.encode Settings.loadsText.toList) =
      some Settings.loadsText.toList := by decide +kernel
  simp [Inputs.settings, loadsInputs, decoded, Settings.loads_read]

/-- Two records, and between them a blank line and one that holds no object. -/
def scatteredText : String :=
  "\x7b\"sizes\":[1]\x7d\n\n[]\n\x7b\"at\":\"2021-01-02\"\x7d\n"

/-- The same records one after the other. -/
def gatheredText : String := "\x7b\"sizes\":[1]\x7d\n\x7b\"at\":\"2021-01-02\"\x7d\n"

/-- Two rows and a warning are printed for the scattered records, and the rows are those that are
printed for the gathered ones. -/
theorem scattered_reported_line_by_line :
    (loadsInputs scatteredText).settings (some "loads.yaml") = .ok Settings.loads ∧
    (loadsInputs scatteredText).lines (.extract "loads" none) =
      .ok (.ofBytes (Utf8.encode scatteredText.toList)) ∧
    (InputLines.ofBytes (Utf8.encode scatteredText.toList)).complete = true ∧
    (InputLines.ofBytes (Utf8.encode gatheredText.toList)).objects =
      (InputLines.ofBytes (Utf8.encode scatteredText.toList)).objects ∧
    let extraction : Invocation :=
      { config := some "loads.yaml", command := .extract "loads" none }
    (extraction.run (loadsInputs scatteredText)).ending = .done ∧
    (extraction.run (loadsInputs scatteredText)).messages.length = 3 ∧
    (extraction.run (loadsInputs gatheredText)).messages.filterMap Message.row? =
      (extraction.run (loadsInputs scatteredText)).messages.filterMap Message.row? := by
  have complete : (InputLines.ofBytes (Utf8.encode scatteredText.toList)).complete = true := by
    decide +kernel
  have same : (InputLines.ofBytes (Utf8.encode gatheredText.toList)).objects =
      (InputLines.ofBytes (Utf8.encode scatteredText.toList)).objects := by decide +kernel
  have three : (InputLines.ofBytes (Utf8.encode scatteredText.toList)).filled.length = 3 := by
    decide +kernel
  have given : (loadsInputs scatteredText).lines (.extract "loads" none) =
      .ok (.ofBytes (Utf8.encode scatteredText.toList)) := rfl
  obtain ⟨-, ends, rows, -, -, isolated⟩ := reported_line_by_line
    (loadsInputs_settings scatteredText) rfl given complete .json false
  exact ⟨loadsInputs_settings scatteredText, given, complete, same, ends,
    rows.length_eq.symm.trans three,
    (isolated (loadsInputs gatheredText) _ (loadsInputs_settings gatheredText) rfl same).1⟩

end Cli

end Intake
