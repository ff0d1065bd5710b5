import Intake.Proofs.Cli.OneSlot
import Intake.Proofs.Schema.History
import Intake.Proofs.Settings.Validate

/-!
# Discovery in any order

What the discover command prints is compared with the lines of its input and with what the detect
command prints about them. `discover_in_any_order` says which parts of the message the lines alone
decide, whatever the number of workers, the size of the batches and the order of turns: both counts
and the names of the fields. The type of a field may be that of any line that gives it one; it is
that of the first where the lines agree or the tasks do not run side by side.
-/

namespace Intake

/-!
## The lines of an input
-/

namespace InputLines

/-- Lines are numbered from the number given on, in ascending order. -/
theorem ofByteLines_ascending (number : Nat) (bytes : List (List UInt8)) :
    (∀ line ∈ (ofByteLines number bytes).lines, number ≤ line.number) ∧
      (ofByteLines number bytes).lines.Pairwise fun one other => one.number < other.number := by
  induction bytes generalizing number with
  | nil => simp [ofByteLines]
  | cons first rest ih =>
    obtain ⟨above, ascending⟩ := ih (number + 1)
    unfold ofByteLines
    cases Utf8.decode? first with
    | none => simp
    | some text =>
      refine ⟨fun line inside => ?_, List.pairwise_cons.2 ⟨fun line inside => ?_, ascending⟩⟩
      · rcases List.mem_cons.1 inside with rfl | later
        · exact Nat.le_refl _
        · exact Nat.le_of_succ_le (above line later)
      · exact above line inside

/-- No line of an input occurs twice, since each has a number of its own. -/
theorem nodup_filled (bytes : List UInt8) : (ofBytes bytes).filled.Nodup := by
  refine List.Pairwise.filter _ ((ofByteLines_ascending 1 _).2.imp fun below same => ?_)
  exact Nat.lt_irrefl _ (same ▸ below)

end InputLines

namespace Cli

/-- The lines of a command's input are the lines of some bytes. -/
theorem Inputs.exists_ofBytes {inputs : Inputs} {command : Command} {lines : InputLines}
    (given : inputs.lines command = .ok lines) : ∃ bytes, lines = .ofBytes bytes := by
  unfold Inputs.lines at given
  split at given
  · exact ⟨_, (Except.ok.inj given).symm⟩
  · split at given
    · exact ⟨_, (Except.ok.inj given).symm⟩
    · contradiction

theorem Inputs.nodup_filled {inputs : Inputs} {command : Command} {lines : InputLines}
    (given : inputs.lines command = .ok lines) : lines.filled.Nodup := by
  obtain ⟨bytes, rfl⟩ := Inputs.exists_ofBytes given
  exact InputLines.nodup_filled bytes

/-- Batches hold all lines in their order. -/
theorem flatten_batches (size : Nat) (batch lines : List InputLine) :
    (batches size batch lines).flatten = batch.reverse ++ lines := by
  induction lines generalizing batch with
  | nil =>
    unfold batches
    split <;> simp_all
  | cons line rest ih =>
    unfold batches
    split
    · simp [ih]
    · simp [ih]

/-!
## What the commands print
-/

/-- The line holds a JSON object. -/
def holdsObject (line : InputLine) : Bool :=
  match Json.read line.bytes with
  | .ok (.object _) => true
  | _ => false

/-- A line holds a record where it holds a JSON object. -/
theorem isSome_lineRecord? (line : InputLine) : (lineRecord? line).isSome = holdsObject line := by
  unfold lineRecord? holdsObject Record.read
  cases Json.read line.bytes with
  | error fault => rfl
  | ok value => cases value <;> rfl

/-- A printer that never fails prints its message for every line. -/
theorem printEach_eq_map {print : InputLine → Remembering (Except Misuse Message)}
    (message : InputLine → Message)
    (prints : ∀ line cache, print line cache = (.ok (message line), cache))
    (lines : List InputLine) (cache : LayoutCache) :
    printEach print lines cache = (lines.map message, none) := by
  induction lines with
  | nil => rfl
  | cons line rest ih => simp [printEach, prints, ih]

/-- What the detect command prints about a line. -/
def detectedOn (layouts : LayoutReader) (line : InputLine) : Message :=
  match Record.read line.bytes with
  | .ok record =>
    .recordTypes line.number (record.entries.map fun entry => (entry.1, entry.2.detectType layouts))
  | .error cause => .skipped line.number cause

section

variable {inputs : Inputs} {settings : Settings} {context : ReadContext} {lines : InputLines}

theorem detect_messages {command : Command} (made : settings.context = .ok context)
    (given : inputs.lines command = .ok lines) :
    (detect inputs settings command).messages = lines.filled.map (detectedOn context.reader) := by
  simp only [detect, made, given, bind, Except.bind, pure, Except.pure, Run.after, overRecords]
  rw [printEach_eq_map (detectedOn context.reader)]
  intro line cache
  unfold detectedOn
  cases Record.read line.bytes <;> rfl

/-- For every line that gives a field a type the detect command prints that type. -/
theorem exists_recordTypes {command : Command} (made : settings.context = .ok context)
    (given : inputs.lines command = .ok lines) {line : InputLine} (filled : line ∈ lines.filled)
    {name : String} {type : FieldType} (typed : lineType? context.reader name line = some type) :
    ∃ types, .recordTypes line.number types ∈ (detect inputs settings command).messages ∧
      (name, type) ∈ types := by
  rw [detect_messages made given]
  cases read : Record.read line.bytes with
  | error cause => simp [lineType?, lineRecord?_of_error read] at typed
  | ok record =>
    simp only [lineType?, lineRecord?_of_ok read, Option.bind_some, Record.detectType?,
      Option.filter_eq_some_iff, Option.map_eq_some_iff] at typed
    obtain ⟨⟨value, held, rfl⟩, -⟩ := typed
    refine ⟨_, List.mem_map.2 ⟨line, filled, by rw [detectedOn, read]⟩, ?_⟩
    exact List.mem_map.2 ⟨(name, value), NameMap.find?_eq_some_iff.1 held, rfl⟩

/-- With valid settings, sizes that can be had and an input that can be read, the discover command
prints one message: it says what looking at all batches one after the other finds. -/
theorem discover_eq {command : Command} {name : String} {table : TableSettings}
    {tracker : SchemaTracker} {workers batch : Nat} (found : settings.table name = .ok table)
    (made : settings.context = .ok context)
    (tracks : SchemaTracker.ofTable inputs.platform.patterns table = .ok tracker)
    (given : inputs.lines command = .ok lines) (complete : lines.complete = true)
    (counted : workers ≤ TaskPool.greatestLimit) (fits : max batch 1 * lineRoom ≤ totalRoom) :
    discover inputs settings command name workers batch =
      { messages := [((batches (max batch 1) [] lines.filled).foldl
          (Progress.lookAll context.reader) { tracker := tracker }).message name] } := by
  have sizes : checkSizes workers batch = .ok () := by
    simp [checkSizes, TaskPool.create, counted, Nat.not_lt.2 fits, bind, Except.bind, pure,
      Except.pure]
  simp [discover, found, made, tracks, given, complete, sizes, Run.after, bind, Except.bind, pure,
    Except.pure]

end

/-!
## What any crew finds
-/

/-- Lines agree on the type of a field where all those that give it a type give it one. -/
def Agree (layouts : LayoutReader) (lines : List InputLine) (name : String) : Prop :=
  ∀ one ∈ lines, ∀ other ∈ lines, ∀ oneType ∈ lineType? layouts name one,
    ∀ otherType ∈ lineType? layouts name other, oneType = otherType

/-- Where lines agree, the type that one of them gives is the first that is given. -/
theorem Agree.first_type {layouts : LayoutReader} {lines : List InputLine} {name : String}
    (agree : Agree layouts lines name) {line : InputLine} (given : line ∈ lines) {type : FieldType}
    (typed : lineType? layouts name line = some type) :
    lines.findSome? (lineType? layouts name) = some type := by
  cases first : lines.findSome? (lineType? layouts name) with
  | none => simp [List.findSome?_eq_none_iff.1 first line given] at typed
  | some firstType =>
    obtain ⟨other, inside, types⟩ := List.exists_of_findSome?_eq_some first
    rw [agree other inside line given firstType types type typed]

section

variable {layouts : LayoutReader} {tracker : SchemaTracker} {batches : List (List InputLine)}
  {limit : Nat} {crew : Crew}

/-- The names of the fields that a finished crew has found. -/
theorem Crew.Reaches.mem_names_iff
    (reaches : (Crew.start tracker batches).Reaches layouts limit crew) (done : crew.Finished)
    (distinct : batches.flatten.Nodup)
    (none : tracker.state.pending = .empty) {name : String} :
    name ∈ crew.shared.progress.tracker.state.pendingFields.map NewField.name ↔
      tracker.state.isKnown name = false ∧ tracker.filter.admits name = true ∧
        ∃ line ∈ batches.flatten, ∃ type, lineType? layouts name line = some type := by
  obtain ⟨_, _, _, ledger⟩ := reaches.exists_ledger distinct
  constructor
  · intro inside
    obtain ⟨field, pending, rfl⟩ := List.mem_map.1 inside
    obtain ⟨fresh, allowed, line, given, typed⟩ := ledger.of_pending none pending
    exact ⟨fresh, allowed, line, given, _, typed⟩
  · rintro ⟨fresh, allowed, line, given, type, typed⟩
    obtain ⟨_, pending⟩ := ledger.pending_of done none fresh allowed given typed
    exact List.mem_map.2 ⟨_, pending, rfl⟩

/-- Finished crews that were given the same lines have found fields of the same names in the same
order. -/
theorem Crew.Reaches.names_eq {otherBatches : List (List InputLine)} {otherLimit : Nat}
    {other : Crew} (reaches : (Crew.start tracker batches).Reaches layouts limit crew)
    (done : crew.Finished)
    (otherReaches : (Crew.start tracker otherBatches).Reaches layouts otherLimit other)
    (otherDone : other.Finished) (same : otherBatches.flatten = batches.flatten)
    (distinct : batches.flatten.Nodup) (none : tracker.state.pending = .empty) :
    crew.shared.progress.tracker.state.pendingFields.map NewField.name =
      other.shared.progress.tracker.state.pendingFields.map NewField.name := by
  have ascending := fun crew : Crew =>
    List.pairwise_map.2 crew.shared.progress.tracker.state.pendingFields_ascending
  have unique : ∀ crew : Crew,
      (crew.shared.progress.tracker.state.pendingFields.map NewField.name).Nodup := by
    intro crew
    refine List.Pairwise.imp ?_ (ascending crew)
    rintro name _ below rfl
    exact String.lt_irrefl name below
  refine List.Perm.eq_of_pairwise (fun one two _ _ below above => ?_) (ascending crew)
    (ascending other) ((List.perm_ext_iff_of_nodup (unique crew) (unique other)).2 fun name => ?_)
  · exact absurd above (String.lt_asymm below)
  · rw [reaches.mem_names_iff done distinct none,
      otherReaches.mem_names_iff otherDone (same ▸ distinct) none, same]

/-- The message of a finished crew counts the lines that hold an object and the others. -/
theorem Crew.Reaches.message_eq
    (reaches : (Crew.start tracker batches).Reaches layouts limit crew) (done : crew.Finished)
    (distinct : batches.flatten.Nodup) (table : String) :
    crew.shared.progress.message table =
      .newFields table (batches.flatten.countP holdsObject)
        (batches.flatten.countP fun line => !holdsObject line)
        crew.shared.progress.tracker.state.pendingFields := by
  obtain ⟨_, _, _, ledger⟩ := reaches.exists_ledger distinct
  obtain ⟨-, records, malformed⟩ := ledger.counts done
  have others : ∀ line, (lineRecord? line).isNone = !holdsObject line := by
    intro line
    rw [← isSome_lineRecord?, Option.not_isSome]
  simp only [isSome_lineRecord?] at records
  simp only [others] at malformed
  rw [Progress.message, records, malformed]
  rfl

/-- A field that a crew has found has a type that some line gives it. It is the first that is given
if no two tasks ran side by side or the lines agree. -/
theorem Crew.Reaches.type_eq
    (reaches : (Crew.start tracker batches).Reaches layouts limit crew) (done : crew.Finished)
    (distinct : batches.flatten.Nodup) (none : tracker.state.pending = .empty) {field : NewField}
    (pending : field ∈ crew.shared.progress.tracker.state.pendingFields) :
    (∃ line ∈ batches.flatten, lineType? layouts field.name line = some field.type) ∧
      ((Crew.start tracker batches).Reaches layouts 1 crew ∨
          Agree layouts batches.flatten field.name →
        batches.flatten.findSome? (lineType? layouts field.name) = some field.type) := by
  obtain ⟨_, _, _, ledger⟩ := reaches.exists_ledger distinct
  obtain ⟨fresh, allowed, line, given, typed⟩ := ledger.of_pending none pending
  refine ⟨⟨line, given, typed⟩, ?_⟩
  rintro (apart | agree)
  · exact apart.first_type done none fresh allowed pending
  · exact agree.first_type given typed

end

/-- The store has a type for every type that a line gives. -/
theorem isSome_storeType?_of_lineType? {layouts : LayoutReader} {name : String} {line : InputLine}
    {type : FieldType} (typed : lineType? layouts name line = some type) :
    type.storeType?.isSome = true := by
  have concrete := (Option.filter_eq_some_iff.1 typed).2
  cases type with
  | unknown => simp at concrete
  | scalar | array => rfl

/-- The tracker of a valid table knows the fields that columns are read from and no others, and
nothing is pending. -/
theorem exists_tracker {engine : PatternEngine} {table : TableSettings}
    (valid : table.check engine = .ok ()) :
    ∃ filter tracker, table.filter engine = .ok filter ∧
      SchemaTracker.ofTable engine table = .ok tracker ∧
      tracker.filter = filter ∧ tracker.state.pending = .empty ∧
      ∀ key, tracker.state.isKnown key = false ↔
        ∀ column ∈ table.columns, column.sourceKey ≠ key := by
  obtain ⟨filter, compiled, made⟩ := SchemaTracker.exists_ofTable valid
  refine ⟨filter, _, compiled, made, rfl, Discoveries.pending_seed _ _, fun key => ?_⟩
  have blank : ({} : Discoveries).isKnown key = false := rfl
  simp [SchemaTracker.seed, blank]

/-- The discover command on valid settings, a table of theirs and an input of UTF-8 lines, with any
number of workers that can be counted and any size of batches for which there is room.

The names are the fields that the filter admits, that no column is read from and that some line
gives a type. Every order of turns comes to an end, and at its end the message counts the lines that
hold an object and the others, and names these fields in strictly ascending order of the bytes of
their names. Each type is one that the detect command prints for the field on some line, and one
that the store has. With a single worker, and whenever no two tasks ran side by side or the lines
agree, it is the first type that a line gives the field. The run of `discover` is that of one such
order. -/
theorem discover_in_any_order {inputs : Inputs} {settings : Settings} {name : String}
    {table : TableSettings} {input : Option String} {lines : InputLines}
    (valid : settings.check inputs.platform.patterns = .ok ())
    (found : settings.table name = .ok table)
    (given : inputs.lines (.detect input) = .ok lines) (complete : lines.complete = true) :
    ∃ context filter tracker, settings.context = .ok context ∧
      table.filter inputs.platform.patterns = .ok filter ∧
      SchemaTracker.ofTable inputs.platform.patterns table = .ok tracker ∧
      ∃ names : List String,
        names.Pairwise (fun one other => Utf8.encode one.toList < Utf8.encode other.toList) ∧
        (∀ key, key ∈ names ↔ filter.admits key = true ∧
          (∀ column ∈ table.columns, column.sourceKey ≠ key) ∧
          ∃ line ∈ lines.filled, ∃ type, lineType? context.reader key line = some type) ∧
        ∀ workers batch, workers ≤ TaskPool.greatestLimit →
          max batch 1 * lineRoom ≤ totalRoom →
          let start := Crew.start tracker (batches (max batch 1) [] lines.filled)
          (∃ crew, start.Reaches context.reader (max workers 1) crew ∧ crew.Finished ∧
            discover inputs settings (.discover name input workers batch) name workers batch =
              { messages := [crew.shared.progress.message name] }) ∧
          WellFounded (fun later crew =>
            Crew.Step context.reader (max workers 1) crew later) ∧
          ∀ crew, start.Reaches context.reader (max workers 1) crew →
            (¬crew.Finished → ∃ later, Crew.Step context.reader (max workers 1) crew later) ∧
            (crew.Finished → ∃ fields,
              crew.shared.progress.message name =
                .newFields name (lines.filled.countP holdsObject)
                  (lines.filled.countP fun line => !holdsObject line) fields ∧
              fields.map NewField.name = names ∧
              ∀ field ∈ fields,
                field.type.storeType?.isSome = true ∧
                (∃ line ∈ lines.filled, ∃ types,
                  .recordTypes line.number types ∈
                    (detect inputs settings (.detect input)).messages ∧
                  (field.name, field.type) ∈ types) ∧
                (workers ≤ 1 ∨ start.Reaches context.reader 1 crew ∨
                    Agree context.reader lines.filled field.name →
                  lines.filled.findSome? (lineType? context.reader field.name) =
                    some field.type)) := by
  obtain ⟨context, made⟩ := Settings.exists_context valid
  obtain ⟨-, -, -, tables⟩ := Settings.check_eq_ok_iff.1 valid
  obtain ⟨filter, tracker, compiled, tracks, filter_eq, none, fresh_iff⟩ :=
    exists_tracker (tables table (Settings.mem_tables_of_table found).1)
  have whole : ∀ size, (batches size [] lines.filled).flatten = lines.filled :=
    fun size => flatten_batches size [] lines.filled
  have distinct : ∀ size, (batches size [] lines.filled).flatten.Nodup :=
    fun size => (whole size).symm ▸ Inputs.nodup_filled given
  have begins : ∀ size, (Crew.start tracker (batches size [] lines.filled)).Valid tracker.filter
      context.reader := fun size => .start context.reader tracker _
  -- All finished crews have found the same names, so any of them provides these.
  obtain ⟨first, firstReaches, firstDone⟩ := (begins 1).exists_finished Nat.one_pos
  refine ⟨context, filter, tracker, made, compiled, tracks,
    first.shared.progress.tracker.state.pendingFields.map NewField.name,
    List.pairwise_map.2 (Discoveries.pendingFields_byteOrder _), fun key => ?_,
    fun workers batch counted fits => ⟨?_, Crew.wellFounded_step _ _, fun crew reaches =>
      ⟨fun unfinished => ?_, fun done => ?_⟩⟩⟩
  · rw [firstReaches.mem_names_iff firstDone (distinct 1) none, fresh_iff, filter_eq, whole,
      and_left_comm]
  · -- With one slot in use at a time the crew finds what `discover` finds.
    obtain ⟨crew, reaches, done⟩ := (begins (max batch 1)).exists_finished Nat.one_pos
    refine ⟨crew, reaches.mono (Nat.le_max_right _ _), done, ?_⟩
    rw [reaches.progress_eq done]
    exact discover_eq found made tracks given complete counted fits
  · exact (reaches.valid (begins _)).exists_step (Nat.lt_of_lt_of_le Nat.one_pos
      (Nat.le_max_right _ _)) unfinished
  · refine ⟨_, whole (max batch 1) ▸ reaches.message_eq done (distinct _) name,
      reaches.names_eq done firstReaches firstDone (by rw [whole, whole]) (distinct _) none,
      fun field pending => ?_⟩
    obtain ⟨⟨line, inside, typed⟩, order⟩ := reaches.type_eq done (distinct _) none pending
    rw [whole] at inside order
    refine ⟨isSome_storeType?_of_lineType? typed, ⟨line, inside,
      exists_recordTypes made given inside typed⟩, ?_⟩
    rintro (single | apart | agree)
    · rw [Nat.max_eq_right single] at reaches
      exact order (.inl reaches)
    · exact order (.inl apart)
    · exact order (.inr agree)

/-- Settings with one table, which has no columns. -/
def bareSettings : Settings := { tables := [{ name := "loads" }] }

/-- Two records that give a field different types, and between them a blank line and one that holds
no object. -/
def mixedInputs : Inputs where
  file _ := none
  standard := Utf8.encode "\x7b\"load\":true\x7d\n\n[]\n\x7b\"load\":\"high\"\x7d\n".toList

/-- The lines of the mixed input. -/
def mixedLines : InputLines := .ofBytes mixedInputs.standard

/-- Two workers with a batch for each line may race for the field. Whoever wins, the message counts
two records and one other line, and names the field. -/
theorem mixed_discover_in_any_order : bareSettings.check .regex = .ok () ∧
    bareSettings.table "loads" = .ok { name := "loads" } ∧
    mixedInputs.lines (.detect none) = .ok mixedLines ∧ mixedLines.complete = true ∧
    2 ≤ TaskPool.greatestLimit ∧ max 1 1 * lineRoom ≤ totalRoom ∧
    ∃ context tracker, bareSettings.context = .ok context ∧
      SchemaTracker.ofTable .regex { name := "loads" } = .ok tracker ∧
      let start := Crew.start tracker (batches 1 [] mixedLines.filled)
      (∃ crew, start.Reaches context.reader 2 crew ∧ crew.Finished) ∧
      ∀ crew, start.Reaches context.reader 2 crew → crew.Finished →
        ∃ fields, crew.shared.progress.message "loads" = .newFields "loads" 2 1 fields ∧
          "load" ∈ fields.map NewField.name := by
  have valid : bareSettings.check .regex = .ok () := by decide
  have found : bareSettings.table "loads" = .ok { name := "loads" } := rfl
  have given : mixedInputs.lines (.detect none) = .ok mixedLines := rfl
  have complete : mixedLines.complete = true := by decide +kernel
  have counted : 2 ≤ TaskPool.greatestLimit := by decide
  have fits : max 1 1 * lineRoom ≤ totalRoom := by decide
  have records : mixedLines.filled.countP holdsObject = 2 := by decide +kernel
  have others : (mixedLines.filled.countP fun line => !holdsObject line) = 1 := by decide +kernel
  obtain ⟨context, filter, tracker, made, compiled, tracks, names, -, named, orders⟩ :=
    discover_in_any_order valid found given complete
  obtain rfl := Except.ok.inj made
  obtain rfl := Except.ok.inj compiled
  obtain ⟨⟨crew, reaches, done, -⟩, -, finish⟩ := orders 2 1 counted fits
  refine ⟨valid, found, given, complete, counted, fits, _, tracker, made, tracks,
    ⟨crew, reaches, done⟩, fun crew reaches done => ?_⟩
  obtain ⟨fields, message, same, -⟩ := (finish crew reaches).2 done
  rw [records, others] at message
  refine ⟨fields, message, same ▸ (named "load").2 ⟨rfl, nofun, ?_⟩⟩
  simp only [← Option.isSome_iff_exists]
  decide +kernel

end Cli

end Intake
