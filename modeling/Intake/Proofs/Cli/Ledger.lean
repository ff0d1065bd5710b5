import Intake.Proofs.Cli.Crew
import Intake.Proofs.Schema.Concurrent

/-!
# What a crew has counted and found

A crew at work is a run of surveys on shared sets, one survey for each line, and the lines that its
tasks have not counted yet are those that it was given less those that are counted. `Ledger` keeps
these accounts beside a crew, and every operation keeps them. Once a crew is finished nothing is
left to count, so that its counts and the names of the fields that it has found follow from the
lines alone.
-/

namespace Intake

namespace Interleaving

section

variable {Surveyor : Type} [DecidableEq Surveyor] {surveys : Surveyor → Survey}
  {sets : Discoveries} {configuration : Configuration Surveyor Empty}
  {events : List (Event Surveyor Empty)}

/-- Where nothing was pending at the start, the pending fields are those added. -/
theorem Run.mem_pendingFields_iff (run : Run surveys sets configuration events)
    (none : sets.pending = .empty) {field : NewField} :
    field ∈ configuration.sets.pendingFields ↔
      ∃ surveyor, (surveyor, field) ∈ additionsOf events field.name := by
  have account : (configuration.sets.pendingFields : Multiset NewField) =
      ((additions events).map Prod.snd : List NewField) := by
    simpa [Configuration.gathered, Discoveries.pendingFields, none, NameMap.empty] using
      run.gathered_eq (.of_empty none)
  rw [← Multiset.mem_coe, account]
  simp [mem_additionsOf_iff]

/-- A pending field is one that some survey admits. -/
theorem Run.admitted_of_pending (run : Run surveys sets configuration events)
    (none : sets.pending = .empty) {field : NewField}
    (pending : field ∈ configuration.sets.pendingFields) :
    sets.isKnown field.name = false ∧ ∃ surveyor value,
      (surveys surveyor).record.find? field.name = some value ∧
        (surveys surveyor).verdict field.name value = .admitted field.type := by
  obtain ⟨surveyor, added⟩ := (run.mem_pendingFields_iff none).1 pending
  cases run.fate field.name with
  | untouched _ _ unadded | rejected _ _ unadded | owed _ _ unadded => simp [unadded] at added
  | added claimed verdict once =>
    rw [once, List.mem_singleton] at added
    rw [(Prod.mk.inj added).2]
    exact ⟨claimed.fresh, _, _, claimed.held, verdict⟩

/-- Where all surveys have one filter and are finished, a field that one of them admits is pending
in the end. -/
theorem Run.pending_of_admitted (run : Run surveys sets configuration events)
    (none : sets.pending = .empty) {filter : KeyFilter}
    (same : ∀ surveyor, (surveys surveyor).filter = filter)
    (finished : ∀ surveyor, (surveys surveyor).record ≠ .empty →
      (configuration.surveys surveyor).Finished)
    {surveyor : Surveyor} {name : String} {value : Json} {type : FieldType}
    (fresh : sets.isKnown name = false)
    (held : (surveys surveyor).record.find? name = some value)
    (admitted : (surveys surveyor).verdict name value = .admitted type) :
    ∃ type, { name := name, type := type } ∈ configuration.sets.pendingFields := by
  have done : ∀ {other held}, (surveys other).record.find? name = some held →
      (configuration.surveys other).Finished := by
    intro other held inside
    refine finished other fun empty => ?_
    simp [empty] at inside
  obtain ⟨allowed, rfl, concrete⟩ := Discoveries.verdict_eq_admitted_iff.1 admitted
  have known := run.isKnown_of_admitted (done held) held allowed concrete
  cases run.fate name with
  | untouched unchanged => simp [unchanged, fresh] at known
  | rejected claimed verdict =>
    have refused := Discoveries.verdict_eq_rejected_iff.1 verdict
    rw [same] at allowed refused
    simp [allowed] at refused
  | owed claimed _ _ owes => exact absurd ((owes _ _).2 ⟨rfl, rfl⟩) (done claimed.held).not_owes
  | @added winner _ type _ _ once =>
    refine ⟨type, (run.mem_pendingFields_iff none).2 ⟨winner, ?_⟩⟩
    rw [once]
    exact List.mem_singleton_self _

end

end Interleaving

namespace Cli

open Interleaving (Survey SurveyStep SurveyOperation Configuration Event)

/-- The survey of a line looks at the record of the line. A line that holds none, or that is not
among those given, leaves nothing to look at. -/
def lineSurvey (filter : KeyFilter) (layouts : LayoutReader) (lines : List InputLine)
    (line : InputLine) : Survey where
  filter := filter
  reader := layouts
  record := if line ∈ lines then (lineRecord? line).getD .empty else .empty

/-- The lines that a crew has not counted yet. -/
def Crew.lines (crew : Crew) : List InputLine :=
  crew.tasks.flatMap Task.lines ++ crew.queue.flatten

/-- A task has come with its lines as far as their surveys. -/
def Task.Agrees (surveys : InputLine → Survey) (progress : InputLine → Interleaving.Progress) :
    Task → Prop
  | waiting lines | reading _ lines => ∀ line ∈ lines, progress line = .start (surveys line)
  | surveying _ line _ survey rest =>
    progress line = survey ∧ ∀ line ∈ rest, progress line = .start (surveys line)

/-- The accounts of a crew: the lines that are counted, and how far the survey of each line has
come. -/
structure Ledger (filter : KeyFilter) (layouts : LayoutReader) (sets : Discoveries)
    (lines : List InputLine) (crew : Crew) (counted : List InputLine)
    (configuration : Configuration InputLine Empty) (events : List (Event InputLine Empty)) :
    Prop where
  run : Interleaving.Run (lineSurvey filter layouts lines) sets configuration events
  sets_eq : crew.shared.progress.tracker.state = configuration.sets
  account : (counted ++ crew.lines).Perm lines
  records_eq : crew.shared.progress.records =
    counted.countP fun line => (lineRecord? line).isSome
  malformed_eq : crew.shared.progress.malformed =
    counted.countP fun line => (lineRecord? line).isNone
  finished : ∀ line ∈ counted, (configuration.surveys line).Finished
  tasks : ∀ task ∈ crew.tasks,
    task.Agrees (lineSurvey filter layouts lines) configuration.surveys
  queue : ∀ line ∈ crew.queue.flatten,
    configuration.surveys line = .start (lineSurvey filter layouts lines line)

section

variable {filter : KeyFilter} {layouts : LayoutReader} {sets : Discoveries}
  {lines counted : List InputLine} {configuration : Configuration InputLine Empty}
  {events : List (Event InputLine Empty)}

/-- Before a crew begins nothing is counted. -/
theorem Ledger.start (layouts : LayoutReader) {tracker : SchemaTracker}
    (batches : List (List InputLine)) :
    Ledger tracker.filter layouts tracker.state batches.flatten (Crew.start tracker batches) []
      (.start (lineSurvey tracker.filter layouts batches.flatten) tracker.state) [] where
  run := .start
  sets_eq := rfl
  account := .refl _
  records_eq := rfl
  malformed_eq := rfl
  finished _ inside := absurd inside List.not_mem_nil
  tasks _ inside := absurd inside List.not_mem_nil
  queue _ _ := rfl

/-- A task agrees with surveys of which none that concerns it has moved. -/
theorem Task.Agrees.congr {surveys : InputLine → Survey}
    {progress moved : InputLine → Interleaving.Progress} {task : Task}
    (agrees : task.Agrees surveys progress)
    (same : ∀ line ∈ task.lines, moved line = progress line) : task.Agrees surveys moved := by
  cases task with
  | waiting | reading => exact fun line inside => (same line inside).trans (agrees line inside)
  | surveying _ line _ _ rest =>
    exact ⟨(same line List.mem_cons_self).trans agrees.1, fun other inside =>
      (same other (List.mem_cons_of_mem _ inside)).trans (agrees.2 other inside)⟩

/-- The lines of some tasks of a crew, and the others. -/
theorem Crew.lines_perm (shared : Shared) (queue : List (List InputLine))
    (before tasks after : List Task) :
    (Crew.lines ⟨shared, queue, before ++ tasks ++ after⟩).Perm
      (tasks.flatMap Task.lines ++
        (before.flatMap Task.lines ++ (after.flatMap Task.lines ++ queue.flatten))) := by
  simp only [lines, List.flatMap_append, List.append_assoc]
  exact List.perm_append_comm_assoc _ _ _

variable {shared next : Shared} {queue : List (List InputLine)} {task : Task}
  {task? : Option Task} {before after : List Task}

/-- The lines are those counted, those of one task and those of others. -/
theorem Ledger.split (ledger : Ledger filter layouts sets lines
      ⟨shared, queue, before ++ task :: after⟩ counted configuration events) :
    (counted ++ (task.lines ++
      (before.flatMap Task.lines ++ (after.flatMap Task.lines ++ queue.flatten)))).Perm lines := by
  have parts : (Crew.lines ⟨shared, queue, before ++ task :: after⟩).Perm
      (task.lines ++
        (before.flatMap Task.lines ++ (after.flatMap Task.lines ++ queue.flatten))) := by
    simpa using Crew.lines_perm shared queue before [task] after
  exact (parts.append_left counted).symm.trans ledger.account

/-- A task has one of the lines. -/
theorem Ledger.mem_lines (ledger : Ledger filter layouts sets lines
      ⟨shared, queue, before ++ task :: after⟩ counted configuration events)
    {line : InputLine} (own : line ∈ task.lines) : line ∈ lines :=
  ledger.split.mem_iff.1 (List.mem_append_right _ (List.mem_append_left _ own))

/-- The lines of a task are distinct and none of them is counted. -/
theorem Ledger.nodup_task (ledger : Ledger filter layouts sets lines
      ⟨shared, queue, before ++ task :: after⟩ counted configuration events)
    (distinct : lines.Nodup) : (counted ++ task.lines).Nodup := by
  have whole := ledger.split.nodup_iff.2 distinct
  rw [← List.append_assoc] at whole
  exact (List.nodup_append.1 whole).1

/-- A turn of a task keeps the accounts of the crew if it keeps those of the task and moves no
survey of a line that the task does not have. -/
theorem Ledger.turn (ledger : Ledger filter layouts sets lines
      ⟨shared, queue, before ++ task :: after⟩ counted configuration events)
    (distinct : lines.Nodup) {nextCounted : List InputLine}
    {moved : Configuration InputLine Empty} {longer : List (Event InputLine Empty)}
    (run : Interleaving.Run (lineSurvey filter layouts lines) sets moved longer)
    (sets_eq : next.progress.tracker.state = moved.sets)
    (account : (nextCounted ++ task?.toList.flatMap Task.lines).Perm (counted ++ task.lines))
    (records_eq : next.progress.records =
      nextCounted.countP fun line => (lineRecord? line).isSome)
    (malformed_eq : next.progress.malformed =
      nextCounted.countP fun line => (lineRecord? line).isNone)
    (finished : ∀ line ∈ nextCounted, (moved.surveys line).Finished)
    (agrees : ∀ task ∈ task?, task.Agrees (lineSurvey filter layouts lines) moved.surveys)
    (same : ∀ line, line ∉ task.lines → moved.surveys line = configuration.surveys line) :
    Ledger filter layouts sets lines ⟨next, queue, before ++ task?.toList ++ after⟩ nextCounted
      moved longer := by
  -- The lines of a task are its own, so that the surveys of all others stay where they are.
  have apart : ∀ line, line ∈ before.flatMap Task.lines ++
      (after.flatMap Task.lines ++ queue.flatten) →
      moved.surveys line = configuration.surveys line := by
    intro line inside
    have separate := (List.nodup_append.1 (ledger.split.nodup_iff.2 distinct)).2.1
    exact same line fun own => (List.nodup_append.1 separate).2.2 line own line inside rfl
  refine ⟨run, sets_eq, ?_, records_eq, malformed_eq, finished, fun other inside => ?_,
    fun line inside => ?_⟩
  · refine ((Crew.lines_perm next queue before task?.toList after).append_left _).trans ?_
    rw [← List.append_assoc]
    refine (account.append_right _).trans ?_
    rw [List.append_assoc]
    exact ledger.split
  · simp only [List.append_assoc, List.mem_append, Option.mem_toList] at inside
    rcases inside with first | here | last
    · refine (ledger.tasks other (by simp [first])).congr fun line own => apart line ?_
      exact List.mem_append_left _ (List.mem_flatMap.2 ⟨other, first, own⟩)
    · exact agrees other here
    · refine (ledger.tasks other (by simp [last])).congr fun line own => apart line ?_
      exact List.mem_append_right _ (List.mem_append_left _ (List.mem_flatMap.2 ⟨other, last, own⟩))
  · rw [apart line (List.mem_append_right _ (List.mem_append_right _ inside))]
    exact ledger.queue line inside

/-- The line in front may be counted once its survey is finished. -/
theorem Ledger.countFront (ledger : Ledger filter layouts sets lines
      ⟨shared, queue, before ++ task :: after⟩ counted configuration events)
    (distinct : lines.Nodup) {line : InputLine} {rest : List InputLine}
    (own : task.lines = line :: rest) (finished : (configuration.surveys line).Finished)
    (fresh : ∀ other ∈ rest,
      configuration.surveys other = .start (lineSurvey filter layouts lines other))
    (tracker_eq : next.progress.tracker = shared.progress.tracker)
    (records_eq : next.progress.records =
      shared.progress.records + if (lineRecord? line).isSome then 1 else 0)
    (malformed_eq : next.progress.malformed =
      shared.progress.malformed + if (lineRecord? line).isNone then 1 else 0)
    (reader : RecordReader) :
    Ledger filter layouts sets lines
      ⟨next, queue, before ++ (some (Task.reading reader rest)).toList ++ after⟩
      (counted ++ [line]) configuration events := by
  refine ledger.turn distinct ledger.run (tracker_eq ▸ ledger.sets_eq) (by simp [own])
    ?_ ?_ (fun other inside => ?_) (by simpa [Task.Agrees] using fresh) fun _ _ => rfl
  · simpa [records_eq, List.countP_append, List.countP_cons] using ledger.records_eq
  · simpa [malformed_eq, List.countP_append, List.countP_cons] using ledger.malformed_eq
  · rcases List.mem_append.1 inside with earlier | here
    · exact ledger.finished other earlier
    · obtain rfl := List.mem_singleton.1 here
      exact finished

theorem lineSurvey_of_record {line : InputLine} {record : Record} (given : line ∈ lines)
    (holds : lineRecord? line = some record) : lineSurvey filter layouts lines line =
      { filter := filter, reader := layouts, record := record } := by
  simp [lineSurvey, given, holds]

/-- An operation on the sets is one of the survey of the line in front. -/
theorem Ledger.look {reader : RecordReader} {line : InputLine} {record : Record}
    {survey moved : Interleaving.Progress} {rest : List InputLine} {operation : SurveyOperation}
    {nextSets : Discoveries}
    (ledger : Ledger filter layouts sets lines
      ⟨shared, queue, before ++ .surveying reader line record survey rest :: after⟩ counted
      configuration events)
    (distinct : lines.Nodup) (holds : lineRecord? line = some record)
    (step : SurveyStep { filter := filter, reader := layouts, record := record }
      shared.progress.tracker.state survey operation nextSets moved) :
    Ledger filter layouts sets lines
      ⟨{ shared with progress := shared.progress.withSets nextSets }, queue,
        before ++ (some (Task.surveying reader line record moved rest)).toList ++ after⟩ counted
      { configuration with
        sets := nextSets
        surveys := Function.update configuration.surveys line moved }
      (events ++ [.survey line operation]) := by
  have given : line ∈ lines := ledger.mem_lines List.mem_cons_self
  obtain ⟨here, fresh⟩ := ledger.tasks (.surveying reader line record survey rest) (by simp)
  have turn : SurveyStep (lineSurvey filter layouts lines line) configuration.sets
      (configuration.surveys line) operation nextSets moved := by
    rw [lineSurvey_of_record given holds, here, ← ledger.sets_eq]
    exact step
  -- The survey that moves is that of no other line of the task and of none that is counted.
  obtain ⟨-, front, uncounted⟩ := List.nodup_append.1 (ledger.nodup_task distinct)
  have others : ∀ other ∈ rest, other ≠ line := by
    rintro other inside rfl
    exact (List.nodup_cons.1 front).1 inside
  refine ledger.turn distinct (ledger.run.step (.survey line turn)) rfl (by simp)
    ledger.records_eq ledger.malformed_eq (fun other inside => ?_) ?_ fun other absent => ?_
  · have differs : other ≠ line := uncounted other inside line List.mem_cons_self
    simpa [differs] using ledger.finished other inside
  · simpa [Task.Agrees] using fun other inside => by
      simpa [others other inside] using fresh other inside
  · have differs : other ≠ line := fun same => absent (same ▸ List.mem_cons_self)
    simp [differs]

/-- A turn of a task keeps the accounts. -/
theorem Ledger.work (ledger : Ledger filter layouts sets lines
      ⟨shared, queue, before ++ task :: after⟩ counted configuration events)
    (distinct : lines.Nodup) (filter_eq : shared.progress.tracker.filter = filter)
    (valid : task.Valid filter layouts) (step : Task.Step layouts shared task next task?) :
    ∃ counted configuration events, Ledger filter layouts sets lines
      ⟨next, queue, before ++ task?.toList ++ after⟩ counted configuration events := by
  subst filter_eq
  have agrees := ledger.tasks task (by simp)
  cases step with
  | begin =>
    exact ⟨counted, configuration, events, ledger.turn distinct ledger.run ledger.sets_eq
      (by simp) ledger.records_eq ledger.malformed_eq ledger.finished
      (by simpa [Task.Agrees] using agrees) fun _ _ => rfl⟩
  | leave =>
    exact ⟨counted, configuration, events, ledger.turn distinct ledger.run ledger.sets_eq
      (by simp) ledger.records_eq ledger.malformed_eq ledger.finished
      (by simp) fun _ _ => rfl⟩
  | @refuse reader line rest cause fails =>
    rw [RecordReader.read_fst] at fails
    have none := lineRecord?_of_error fails
    obtain ⟨start, fresh⟩ := List.forall_mem_cons.1 agrees
    refine ⟨counted ++ [line], configuration, events,
      ledger.countFront distinct rfl ?_ fresh (by rfl) (by simp [none]) (by simp [none]) _⟩
    simp [start, Interleaving.Progress.Finished, Interleaving.Progress.start, lineSurvey, none,
      NameMap.empty]
  | @accept reader line rest record holds =>
    rw [RecordReader.read_fst] at holds
    have given : line ∈ lines := ledger.mem_lines List.mem_cons_self
    obtain ⟨start, fresh⟩ := List.forall_mem_cons.1 agrees
    rw [lineSurvey_of_record given (lineRecord?_of_ok holds)] at start
    exact ⟨counted, configuration, events, ledger.turn distinct ledger.run ledger.sets_eq
      (by simp) ledger.records_eq ledger.malformed_eq ledger.finished
      (by simpa [Task.Agrees] using ⟨start, fresh⟩) fun _ _ => rfl⟩
  | look step => exact ⟨_, _, _, ledger.look distinct valid.1 step⟩
  | count finished =>
    obtain ⟨here, fresh⟩ := agrees
    exact ⟨_, _, _, ledger.countFront distinct rfl (here ▸ finished) fresh (by rfl)
      (by simp [valid.1]) (by simp [valid.1]) _⟩

variable {crew later : Crew} {limit : Nat}

/-- Every operation keeps the accounts. -/
theorem Ledger.step (ledger : Ledger filter layouts sets lines crew counted configuration events)
    (distinct : lines.Nodup) (valid : crew.Valid filter layouts)
    (step : Crew.Step layouts limit crew later) :
    ∃ counted configuration events,
      Ledger filter layouts sets lines later counted configuration events := by
  cases step with
  | submit =>
    refine ⟨counted, configuration, events, ledger.run, ledger.sets_eq, ?_, ledger.records_eq,
      ledger.malformed_eq, ledger.finished, fun task inside => ?_, fun line inside => ?_⟩
    · simpa [Crew.lines] using ledger.account
    · rcases List.mem_append.1 inside with running | new
      · exact ledger.tasks task running
      · obtain rfl := List.mem_singleton.1 new
        exact fun line inside => ledger.queue line (List.mem_append_left _ inside)
    · exact ledger.queue line (List.mem_append_right _ inside)
  | work step => exact ledger.work distinct valid.filter_eq (valid.tasks _ (by simp)) step

/-- Whatever the order, a crew has accounts. -/
theorem Crew.Reaches.exists_ledger {tracker : SchemaTracker} {batches : List (List InputLine)}
    (reaches : (Crew.start tracker batches).Reaches layouts limit crew)
    (distinct : batches.flatten.Nodup) :
    ∃ counted configuration events, Ledger tracker.filter layouts tracker.state batches.flatten
      crew counted configuration events := by
  induction reaches with
  | refl => exact ⟨_, _, _, .start layouts batches⟩
  | tail earlier step ih =>
    obtain ⟨_, _, _, ledger⟩ := ih
    exact ledger.step distinct (Crew.Reaches.valid earlier (.start layouts tracker batches)) step

/-!
## What a finished crew has found
-/

/-- The type that the record of a line gives a field, unless that is open or there is none. -/
def lineType? (layouts : LayoutReader) (name : String) (line : InputLine) : Option FieldType :=
  ((lineRecord? line).bind fun record => record.detectType? layouts name).filter (· ≠ .unknown)

/-- The survey of a line admits a field with the type that the line gives it. -/
theorem lineSurvey_admits_iff {line : InputLine} {name : String} {type : FieldType} :
    (∃ value, (lineSurvey filter layouts lines line).record.find? name = some value ∧
        (lineSurvey filter layouts lines line).verdict name value = .admitted type) ↔
      line ∈ lines ∧ filter.admits name = true ∧ lineType? layouts name line = some type := by
  by_cases given : line ∈ lines
  · cases holds : lineRecord? line with
    | none => simp [lineSurvey, given, holds, lineType?]
    | some record =>
      rw [lineSurvey_of_record given holds]
      simp only [Survey.verdict, Discoveries.verdict_eq_admitted_iff, lineType?, holds,
        Record.detectType?, Option.bind_some, Option.filter_eq_some_iff, Option.map_eq_some_iff]
      grind
  · simp [lineSurvey, given]

/-- A finished crew has counted every line: those with a record and the others. -/
theorem Ledger.counts (ledger : Ledger filter layouts sets lines crew counted configuration events)
    (done : crew.Finished) :
    counted.Perm lines ∧
      crew.shared.progress.records = lines.countP (fun line => (lineRecord? line).isSome) ∧
      crew.shared.progress.malformed = lines.countP fun line => (lineRecord? line).isNone := by
  have all : counted.Perm lines := by
    simpa [Crew.lines, done.1, done.2] using ledger.account
  exact ⟨all, ledger.records_eq.trans (all.countP_eq _),
    ledger.malformed_eq.trans (all.countP_eq _)⟩

/-- A field that a crew has found was not known before, is admitted by the filter, and has the type
that some line gives it. -/
theorem Ledger.of_pending
    (ledger : Ledger filter layouts sets lines crew counted configuration events)
    (none : sets.pending = .empty) {field : NewField}
    (pending : field ∈ crew.shared.progress.tracker.state.pendingFields) :
    sets.isKnown field.name = false ∧ filter.admits field.name = true ∧
      ∃ line ∈ lines, lineType? layouts field.name line = some field.type := by
  rw [ledger.sets_eq] at pending
  obtain ⟨fresh, line, admitted⟩ := ledger.run.admitted_of_pending none pending
  obtain ⟨given, allowed, typed⟩ := lineSurvey_admits_iff.1 admitted
  exact ⟨fresh, allowed, line, given, typed⟩

/-- A finished crew has found every field that was not known, is admitted by the filter and has a
type on some line. -/
theorem Ledger.pending_of
    (ledger : Ledger filter layouts sets lines crew counted configuration events)
    (done : crew.Finished) (none : sets.pending = .empty) {name : String}
    (fresh : sets.isKnown name = false) (allowed : filter.admits name = true) {line : InputLine}
    (given : line ∈ lines) {type : FieldType} (typed : lineType? layouts name line = some type) :
    ∃ type, { name := name, type := type } ∈
      crew.shared.progress.tracker.state.pendingFields := by
  obtain ⟨value, held, admitted⟩ := lineSurvey_admits_iff.2 ⟨given, allowed, typed⟩
  rw [ledger.sets_eq]
  refine ledger.run.pending_of_admitted none (fun _ => rfl) (fun other holds => ?_) fresh held
    admitted
  refine ledger.finished other ((ledger.counts done).1.mem_iff.2 ?_)
  by_contra absent
  exact holds (by simp [lineSurvey, absent])

end

end Cli

end Intake
