import Intake.Cli.Run
import Intake.Proofs.Schema.Fate
import Intake.Record.Pool
import Mathlib.Algebra.GroupWithZero.Nat
import Mathlib.Logic.Relation

/-!
# A crew at work on a discovery

A discovery hands its batches of lines to tasks. Each task takes a reader and works through its
lines; all tasks share what was found so far, and at most so many tasks run at once as there are
slots. `Crew.Step` says what may happen next, one operation on shared data at a time, and the
relation, rather than a scheduler, is authoritative: any task may take the next turn.

Whatever the order, a crew that is not finished can go on (`Crew.Valid.exists_step`), and not for
ever (`Crew.wellFounded_step`). So every order of turns comes to an end with all lines dealt with.
-/

namespace Intake.Cli

open Interleaving (Survey SurveyStep SurveyOperation)

/-- The record that a line holds. -/
def lineRecord? (line : InputLine) : Option Record := (Record.read line.bytes).toOption

theorem lineRecord?_of_ok {line : InputLine} {record : Record}
    (holds : Record.read line.bytes = .ok record) : lineRecord? line = some record := by
  simp [lineRecord?, holds, Except.toOption]

theorem lineRecord?_of_error {line : InputLine} {cause : Failure}
    (fails : Record.read line.bytes = .error cause) : lineRecord? line = none := by
  simp [lineRecord?, fails, Except.toOption]

/-- What is asked of a tracker about a record. -/
def Progress.survey (progress : Progress) (layouts : LayoutReader) (record : Record) : Survey :=
  { filter := progress.tracker.filter, reader := layouts, record := record }

/-- The tracker's sets have become others. -/
def Progress.withSets (progress : Progress) (sets : Discoveries) : Progress :=
  { progress with tracker := { progress.tracker with state := sets } }

/-- What the tasks of a crew share: what was found so far, and the readers that are idle. -/
structure Shared where
  progress : Progress
  readers : ReaderPool := {}

/-- A task that holds a slot. -/
inductive Task where
  /-- No reader is taken yet. -/
  | waiting (lines : List InputLine)
  /-- The line in front is to be read. -/
  | reading (reader : RecordReader) (lines : List InputLine)
  /-- The record of a line is looked at, field by field. -/
  | surveying (reader : RecordReader) (line : InputLine) (record : Record)
      (survey : Interleaving.Progress) (rest : List InputLine)

namespace Task

/-- The lines of a task that are not counted yet. -/
def lines : Task → List InputLine
  | waiting lines | reading _ lines => lines
  | surveying _ line _ _ rest => line :: rest

@[simp] theorem lines_waiting (batch : List InputLine) : (waiting batch).lines = batch := rfl

@[simp] theorem lines_reading (reader : RecordReader) (batch : List InputLine) :
    (reading reader batch).lines = batch := rfl

@[simp] theorem lines_surveying (reader : RecordReader) (line : InputLine) (record : Record)
    (survey : Interleaving.Progress) (rest : List InputLine) :
    (surveying reader line record survey rest).lines = line :: rest := rfl

/-- One operation of a task. Reading a line touches nothing shared, so that a line without a record
is read and counted at once. A task that is through with its lines gives back its reader and its
slot. -/
inductive Step (layouts : LayoutReader) : Shared → Task → Shared → Option Task → Prop where
  /-- The task takes a reader. -/
  | begin {shared lines} :
      Step layouts shared (waiting lines) { shared with readers := shared.readers.take.2 }
        (some (reading shared.readers.take.1 lines))
  /-- The line holds no record; it is counted as malformed. -/
  | refuse {shared reader line rest cause} (fails : (reader.read line.bytes).1 = .error cause) :
      Step layouts shared (reading reader (line :: rest))
        { shared with
          progress := { shared.progress with malformed := shared.progress.malformed + 1 } }
        (some (reading (reader.read line.bytes).2 rest))
  /-- The line holds a record. -/
  | accept {shared reader line rest record} (holds : (reader.read line.bytes).1 = .ok record) :
      Step layouts shared (reading reader (line :: rest)) shared
        (some (surveying (reader.read line.bytes).2 line record
          (.start (shared.progress.survey layouts record)) rest))
  /-- One operation on the sets of the tracker. -/
  | look {shared reader line record rest survey operation sets next}
      (step : SurveyStep (shared.progress.survey layouts record)
        shared.progress.tracker.state survey operation sets next) :
      Step layouts shared (surveying reader line record survey rest)
        { shared with progress := shared.progress.withSets sets }
        (some (surveying reader line record next rest))
  /-- All fields are looked at; the line is counted as a record. -/
  | count {shared reader line record rest survey} (finished : survey.Finished) :
      Step layouts shared (surveying reader line record survey rest)
        { shared with
          progress := { shared.progress with records := shared.progress.records + 1 } }
        (some (reading reader rest))
  /-- The task ends. -/
  | leave {shared reader} :
      Step layouts shared (reading reader [])
        { shared with readers := shared.readers.giveBack reader } none

end Task

/-- A crew: what is shared, the batches that are still to be handed in, and the tasks that hold a
slot. -/
structure Crew where
  shared : Shared
  queue : List (List InputLine)
  tasks : List Task

namespace Crew

/-- No batch is handed in yet. -/
def start (tracker : SchemaTracker) (batches : List (List InputLine)) : Crew :=
  { shared := { progress := { tracker := tracker } }, queue := batches, tasks := [] }

/-- Every batch is handed in, and every task has ended. -/
def Finished (crew : Crew) : Prop := crew.queue = [] ∧ crew.tasks = []

/-- One operation of whoever comes next. -/
inductive Step (layouts : LayoutReader) (limit : Nat) : Crew → Crew → Prop where
  /-- The next batch is handed in while a slot is free. -/
  | submit {shared batch queue tasks} (free : tasks.length < limit) :
      Step layouts limit ⟨shared, batch :: queue, tasks⟩
        ⟨shared, queue, tasks ++ [.waiting batch]⟩
  /-- Some task takes a turn. -/
  | work {shared next queue task task? before after}
      (step : Task.Step layouts shared task next task?) :
      Step layouts limit ⟨shared, queue, before ++ task :: after⟩
        ⟨next, queue, before ++ task?.toList ++ after⟩

/-- The crews that operations in any order lead to. -/
def Reaches (layouts : LayoutReader) (limit : Nat) : Crew → Crew → Prop :=
  Relation.ReflTransGen (Step layouts limit)

/-- More slots allow whatever fewer allow. -/
theorem Reaches.mono {layouts : LayoutReader} {fewer more : Nat} (fits : fewer ≤ more)
    {crew last : Crew} (reaches : Reaches layouts fewer crew last) :
    Reaches layouts more crew last := by
  refine Relation.ReflTransGen.mono (fun crew next step => ?_) _ _ reaches
  cases step with
  | submit free => exact .submit (Nat.lt_of_lt_of_le free fits)
  | work step => exact .work step

end Crew

/-!
## What every task may rely on
-/

section

variable {filter : KeyFilter} {layouts : LayoutReader} {shared next : Shared} {task : Task}
  {task? : Option Task}

/-- The record that a task surveys is that of its line, and a verdict that the survey holds is one
that decides. -/
def Task.Valid (filter : KeyFilter) (layouts : LayoutReader) : Task → Prop
  | surveying _ line record survey _ =>
    lineRecord? line = some record ∧
      survey.Sound { filter := filter, reader := layouts, record := record } ∧
      survey.stage ≠ .mark .undecided
  | _ => True

/-- The filter is the one given, and the tasks are valid for it. -/
structure Crew.Valid (filter : KeyFilter) (layouts : LayoutReader) (crew : Crew) : Prop where
  filter_eq : crew.shared.progress.tracker.filter = filter
  tasks : ∀ task ∈ crew.tasks, task.Valid filter layouts

/-- No operation changes the filter. -/
theorem Task.Step.filter_eq (step : Task.Step layouts shared task next task?) :
    next.progress.tracker.filter = shared.progress.tracker.filter := by
  cases step <;> rfl

/-- A survey marks fields only by verdicts that decide. -/
theorem stage_ne_undecided {survey : Survey} {sets nextSets : Discoveries}
    {progress next : Interleaving.Progress} {operation : SurveyOperation}
    (step : SurveyStep survey sets progress operation nextSets next) :
    next.stage ≠ .mark .undecided := by
  cases step with
  | judge unknown decided => simpa using decided
  | pass | postpone | lose | reject | win | add => exact nofun

theorem Task.Step.valid (step : Task.Step layouts shared task next task?)
    (filter_eq : shared.progress.tracker.filter = filter) (valid : task.Valid filter layouts) :
    ∀ task ∈ task?, task.Valid filter layouts := by
  subst filter_eq
  cases step with
  | begin | refuse | count => simp [Valid]
  | leave => simp
  | accept holds =>
    rw [RecordReader.read_fst] at holds
    simpa [Valid] using ⟨lineRecord?_of_ok holds, .start _, nofun⟩
  | look step =>
    obtain ⟨holds, sound, -⟩ := valid
    simpa [Valid] using ⟨holds, step.sound sound, stage_ne_undecided step⟩

/-- A crew is valid from the start. -/
theorem Crew.Valid.start (layouts : LayoutReader) (tracker : SchemaTracker)
    (batches : List (List InputLine)) :
    (Crew.start tracker batches).Valid tracker.filter layouts where
  filter_eq := rfl
  tasks _ inside := absurd inside List.not_mem_nil

/-- A crew stays valid. -/
theorem Crew.Step.valid {limit : Nat} {crew later : Crew}
    (step : Crew.Step layouts limit crew later) (valid : crew.Valid filter layouts) :
    later.Valid filter layouts := by
  obtain ⟨filter_eq, tasks⟩ := valid
  cases step with
  | submit =>
    refine ⟨filter_eq, fun task inside => ?_⟩
    rcases List.mem_append.1 inside with running | new
    · exact tasks task running
    · obtain rfl := List.mem_singleton.1 new
      trivial
  | @work shared next queue task task? before after step =>
    refine ⟨step.filter_eq.trans filter_eq, fun other inside => ?_⟩
    have valid := step.valid filter_eq (tasks task (by simp))
    simp only [List.append_assoc, List.mem_append, Option.mem_toList] at inside
    rcases inside with first | here | last
    · exact tasks other (by simp [first])
    · exact valid other here
    · exact tasks other (by simp [last])

theorem Crew.Reaches.valid {limit : Nat} {crew last : Crew}
    (reaches : crew.Reaches layouts limit last) (valid : crew.Valid filter layouts) :
    last.Valid filter layouts := by
  induction reaches with
  | refl => exact valid
  | tail _ step ih => exact step.valid ih

end

/-!
## Every crew comes to an end
-/

section

variable {filter : KeyFilter} {layouts : LayoutReader} {shared next : Shared} {task : Task}
  {task? : Option Task} {limit : Nat} {crew later : Crew}

/-- A survey that has fields left can go on. -/
theorem exists_surveyStep (survey : Survey) (sets : Discoveries) {progress : Interleaving.Progress}
    (decided : progress.stage ≠ .mark .undecided) (ahead : ¬progress.Finished) :
    ∃ operation nextSets next, SurveyStep survey sets progress operation nextSets next := by
  obtain ⟨stage, remaining, found⟩ := progress
  cases remaining with
  | nil => exact absurd rfl ahead
  | cons entry rest =>
    obtain ⟨name, value⟩ := entry
    cases stage with
    | look =>
      cases known : sets.isKnown name with
      | true => exact ⟨_, _, _, .pass known⟩
      | false =>
        by_cases undecided : survey.verdict name value = .undecided
        · exact ⟨_, _, _, .postpone known undecided⟩
        · exact ⟨_, _, _, .judge known undecided⟩
    | mark verdict =>
      cases known : sets.isKnown name with
      | true => exact ⟨_, _, _, .lose known⟩
      | false =>
        cases verdict with
        | rejected => exact ⟨_, _, _, .reject known⟩
        | undecided => exact absurd rfl decided
        | admitted type => exact ⟨_, _, _, .win known⟩
    | add type => exact ⟨_, _, _, .add⟩

/-- A task that holds a slot can go on. -/
theorem Task.Valid.exists_step (valid : task.Valid filter layouts) (shared : Shared) :
    ∃ next task?, Task.Step layouts shared task next task? := by
  cases task with
  | waiting lines => exact ⟨_, _, .begin⟩
  | reading reader lines =>
    cases lines with
    | nil => exact ⟨_, _, .leave⟩
    | cons line rest =>
      cases read : (reader.read line.bytes).1 with
      | error cause => exact ⟨_, _, .refuse read⟩
      | ok record => exact ⟨_, _, .accept read⟩
  | surveying reader line record survey rest =>
    by_cases finished : survey.Finished
    · exact ⟨_, _, .count finished⟩
    · obtain ⟨_, _, _, step⟩ := exists_surveyStep (shared.progress.survey layouts record)
        shared.progress.tracker.state valid.2.2 finished
      exact ⟨_, _, .look step⟩

/-- A crew that is not finished can go on. -/
theorem Crew.Valid.exists_step (valid : crew.Valid filter layouts) (slots : 0 < limit)
    (unfinished : ¬crew.Finished) : ∃ later, Crew.Step layouts limit crew later := by
  obtain ⟨shared, queue, tasks⟩ := crew
  cases tasks with
  | cons task rest =>
    obtain ⟨next, task?, turn⟩ := (valid.tasks task List.mem_cons_self).exists_step shared
    have step : Crew.Step layouts limit ⟨shared, queue, [] ++ task :: rest⟩ _ := .work turn
    exact ⟨_, step⟩
  | nil =>
    cases queue with
    | nil => exact absurd ⟨rfl, rfl⟩ unfinished
    | cons batch queue => exact ⟨_, .submit slots⟩

/-- More than the operations that a survey has left. -/
def surveyWeight (progress : Interleaving.Progress) : Nat :=
  3 * progress.remaining.length -
    match progress.stage with
    | .look => 0
    | .mark _ => 1
    | .add _ => 2

/-- More than the operations that a line takes. -/
def lineWeight (line : InputLine) : Nat :=
  3 * ((lineRecord? line).getD .empty).entries.length + 2

/-- More than the operations that lines take. -/
def linesWeight (lines : List InputLine) : Nat := (lines.map lineWeight).sum

/-- More than the operations that a task has left. -/
def Task.weight : Task → Nat
  | waiting lines => linesWeight lines + 2
  | reading _ lines => linesWeight lines + 1
  | surveying _ _ _ survey rest => surveyWeight survey + linesWeight rest + 2

/-- More than the operations that a crew has left. -/
def Crew.weight (crew : Crew) : Nat :=
  (crew.tasks.map Task.weight).sum + (crew.queue.map fun batch => linesWeight batch + 3).sum

theorem surveyWeight_lt {survey : Survey} {sets nextSets : Discoveries}
    {progress next : Interleaving.Progress} {operation : SurveyOperation}
    (step : SurveyStep survey sets progress operation nextSets next) :
    surveyWeight next < surveyWeight progress := by
  cases step <;> simp only [surveyWeight, List.length_cons] <;> omega

theorem Task.Step.weight_lt (step : Task.Step layouts shared task next task?) :
    (task?.toList.map Task.weight).sum < task.weight := by
  cases step with
  | begin | leave => simp [Task.weight]
  | refuse => simp [Task.weight, linesWeight, lineWeight]
  | accept holds =>
    rw [RecordReader.read_fst] at holds
    simp [Task.weight, linesWeight, lineWeight, lineRecord?_of_ok holds, surveyWeight,
      Interleaving.Progress.start, Progress.survey]
    omega
  | look step => simpa [Task.weight] using surveyWeight_lt step
  | count =>
    simp only [Task.weight, Option.toList_some, List.map_cons, List.map_nil, List.sum_cons,
      List.sum_nil]
    omega

theorem Crew.Step.weight_lt (step : Crew.Step layouts limit crew later) :
    later.weight < crew.weight := by
  cases step with
  | submit => simp [Crew.weight, Task.weight]; omega
  | work step =>
    have less := step.weight_lt
    simp only [Crew.weight, List.map_append, List.map_cons, List.sum_append, List.sum_cons]
    omega

/-- No crew works for ever. -/
theorem Crew.wellFounded_step (layouts : LayoutReader) (limit : Nat) :
    WellFounded fun later crew => Crew.Step layouts limit crew later :=
  Subrelation.wf Crew.Step.weight_lt (measure Crew.weight).wf

/-- A crew can finish, whatever its tasks have done so far. -/
theorem Crew.Valid.exists_finished (valid : crew.Valid filter layouts) (slots : 0 < limit) :
    ∃ last, crew.Reaches layouts limit last ∧ last.Finished := by
  induction crew using (Crew.wellFounded_step layouts limit).induction with
  | _ crew ih =>
    by_cases finished : crew.Finished
    · exact ⟨crew, .refl, finished⟩
    · obtain ⟨later, step⟩ := valid.exists_step slots finished
      obtain ⟨last, reaches, done⟩ := ih later step (step.valid valid)
      exact ⟨last, .head step reaches, done⟩

end

end Intake.Cli
