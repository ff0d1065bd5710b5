import Intake.Proofs.Cli.Ledger
import Intake.Proofs.Schema.Undisturbed
import Intake.Proofs.Schema.Visit

/-!
# A crew with one slot

Where a single slot is free, no task starts before the one before it has ended, and no task is ever
disturbed. What such a crew will have found once it is finished is the same before and after each of
its operations: it is what `Progress.lookAll` finds by looking at one line after the other. So each
field that it finds has the type of the first line that gives it one.
-/

namespace Intake

namespace Cli

/-- What will have been found once a task that nobody disturbs is through with its lines. -/
def Task.outcome (layouts : LayoutReader) (progress : Progress) : Task → Progress
  | waiting lines | reading _ lines => progress.lookAll layouts lines
  | surveying _ _ record survey rest =>
    let surveyed := progress.withSets
      (survey.outcome (progress.survey layouts record) progress.tracker.state).2
    { surveyed with records := progress.records + 1 }.lookAll layouts rest

/-- What will have been found once a crew is finished, if no task is disturbed. -/
def Crew.outcome (layouts : LayoutReader) (crew : Crew) : Progress :=
  crew.queue.foldl (Progress.lookAll layouts)
    (crew.tasks.foldl (Task.outcome layouts) crew.shared.progress)

section

variable {filter : KeyFilter} {layouts : LayoutReader} {shared next : Shared} {task : Task}
  {task? : Option Task} {crew later : Crew} {limit : Nat}

/-- A finished crew has found what it will have found. -/
theorem Crew.Finished.outcome_eq (done : crew.Finished) :
    crew.outcome layouts = crew.shared.progress := by
  simp [outcome, done.1, done.2]

/-- An operation of a task brings it nearer to its outcome and does not change the outcome. -/
theorem Task.Step.outcome_eq (step : Task.Step layouts shared task next task?)
    (valid : task.Valid shared.progress.tracker.filter layouts) :
    task?.toList.foldl (Task.outcome layouts) next.progress =
      task.outcome layouts shared.progress := by
  cases step with
  | begin | leave => rfl
  | refuse fails =>
    rw [RecordReader.read_fst] at fails
    simp [outcome, Progress.lookAll, Progress.look, fails]
  | accept holds =>
    rw [RecordReader.read_fst] at holds
    simp [outcome, Progress.lookAll, Progress.look, holds, Interleaving.Progress.outcome,
      Interleaving.Progress.start, Progress.survey, Progress.withSets, SchemaTracker.discover,
      Discoveries.discover]
  | look step =>
    have same := step.outcome_eq valid.2.1
    simp only [Progress.survey] at same
    simp [outcome, Progress.withSets, Progress.survey, same]
  | count finished =>
    simp [outcome, finished.outcome_eq, Progress.withSets]

/-- No more tasks run than there are slots. -/
theorem Crew.Step.length_le (step : Crew.Step layouts limit crew later)
    (fits : crew.tasks.length ≤ limit) : later.tasks.length ≤ limit := by
  cases step with
  | submit free => simpa using Nat.succ_le_of_lt free
  | @work _ _ _ _ task? _ _ _ =>
    have one : task?.toList.length ≤ 1 := by cases task? <;> simp
    simp only [List.length_append, List.length_cons] at fits ⊢
    omega

/-- With one slot no operation of a crew changes its outcome. -/
theorem Crew.Step.outcome_eq (step : Crew.Step layouts 1 crew later)
    (valid : crew.Valid filter layouts) (fits : crew.tasks.length ≤ 1) :
    later.outcome layouts = crew.outcome layouts := by
  cases step with
  | submit free =>
    obtain rfl := List.eq_nil_of_length_eq_zero (Nat.lt_one_iff.1 free)
    rfl
  | @work _ _ _ task _ before after step =>
    have alone : before = [] ∧ after = [] := by
      simp only [List.length_append, List.length_cons] at fits
      constructor <;> refine List.eq_nil_of_length_eq_zero ?_ <;> omega
    obtain ⟨rfl, rfl⟩ := alone
    have turn := step.outcome_eq (valid.filter_eq ▸ valid.tasks task (by simp))
    simpa [outcome] using congrArg (List.foldl (Progress.lookAll layouts) · _) turn

/-- A crew with one slot finds what looking at one line after the other finds. -/
theorem Crew.Reaches.progress_eq {tracker : SchemaTracker} {batches : List (List InputLine)}
    (reaches : (Crew.start tracker batches).Reaches layouts 1 crew) (done : crew.Finished) :
    crew.shared.progress = batches.foldl (Progress.lookAll layouts) { tracker := tracker } := by
  suffices same : crew.outcome layouts = (Crew.start tracker batches).outcome layouts ∧
      crew.tasks.length ≤ 1 from done.outcome_eq ▸ same.1
  clear done
  induction reaches with
  | refl => exact ⟨rfl, by simp [Crew.start]⟩
  | tail earlier step ih =>
    have valid := Crew.Reaches.valid earlier (.start layouts tracker batches)
    exact ⟨(step.outcome_eq valid ih.2).trans ih.1, step.length_le ih.2⟩

end

/-!
## Line after line
-/

section

variable {layouts : LayoutReader} {progress : Progress} {name : String}

/-- An admitted field is decided where its value has a type, which is that reported. -/
theorem verdict_of_admits {filter : KeyFilter} (allowed : filter.admits name = true)
    (value : Json) :
    (Discoveries.verdict filter layouts name value).type? =
        (some (value.detectType layouts)).filter (· ≠ .unknown) ∧
      (Discoveries.verdict filter layouts name value).decides =
        (Discoveries.verdict filter layouts name value).type?.isSome := by
  cases type : value.detectType layouts <;>
    simp [Discoveries.verdict, allowed, type, Discoveries.Verdict.type?,
      Discoveries.Verdict.decides, Option.filter]

/-- The type that a line gives an admitted field is the one that its record would make pending. -/
theorem lineType?_of_record {line : InputLine} {record : Record}
    (holds : lineRecord? line = some record) {filter : KeyFilter}
    (allowed : filter.admits name = true) :
    lineType? layouts name line = (entryAt? name record.entries).bind fun value =>
      (Discoveries.verdict filter layouts name value).type? := by
  simp only [lineType?, holds, Option.bind_some, Record.detectType?, NameMap.find?]
  cases entryAt? name record.entries with
  | none => rfl
  | some value => exact (verdict_of_admits allowed value).1.symm

/-- Looking at a line decides an admitted name where the line gives it a type. -/
theorem isKnown_look (allowed : progress.tracker.filter.admits name = true) (line : InputLine) :
    (progress.look layouts line).tracker.state.isKnown name =
      (progress.tracker.state.isKnown name || (lineType? layouts name line).isSome) := by
  cases read : Record.read line.bytes with
  | error cause => simp [Progress.look, read, lineType?, lineRecord?_of_error read]
  | ok record =>
    rw [lineType?_of_record (lineRecord?_of_ok read) allowed]
    simp only [Progress.look, read, SchemaTracker.discover, Discoveries.discover,
      Discoveries.isKnown_visitAll record.ascending]
    cases entryAt? name record.entries with
    | none => rfl
    | some value => simp [(verdict_of_admits allowed value).2]

/-- Looking at a line makes an admitted name pending with the type that the line gives it, unless
the name is known. -/
theorem find?_pending_look (allowed : progress.tracker.filter.admits name = true)
    (line : InputLine) :
    (progress.look layouts line).tracker.state.pending.find? name =
      if progress.tracker.state.isKnown name then progress.tracker.state.pending.find? name
      else (lineType? layouts name line).or (progress.tracker.state.pending.find? name) := by
  cases read : Record.read line.bytes with
  | error cause => simp [Progress.look, read, lineType?, lineRecord?_of_error read]
  | ok record =>
    rw [lineType?_of_record (lineRecord?_of_ok read) allowed]
    simp only [Progress.look, read, SchemaTracker.discover, Discoveries.discover,
      Discoveries.find?_pending_visitAll record.ascending]

@[simp] theorem filter_look (line : InputLine) :
    (progress.look layouts line).tracker.filter = progress.tracker.filter := by
  unfold Progress.look
  split <;> rfl

/-- Looking at lines makes an admitted name pending with the first type that a line gives it, unless
the name is known. -/
theorem find?_pending_lookAll (allowed : progress.tracker.filter.admits name = true)
    (lines : List InputLine) :
    (progress.lookAll layouts lines).tracker.state.pending.find? name =
      if progress.tracker.state.isKnown name then progress.tracker.state.pending.find? name
      else (lines.findSome? (lineType? layouts name)).or
        (progress.tracker.state.pending.find? name) := by
  induction lines generalizing progress with
  | nil => simp [Progress.lookAll]
  | cons line rest ih =>
    have later := @ih (progress.look layouts line) (by simpa using allowed)
    rw [isKnown_look allowed, find?_pending_look allowed] at later
    refine Eq.trans later ?_
    cases progress.tracker.state.isKnown name <;> cases type : lineType? layouts name line <;>
      simp [type]

/-- A field that a crew with one slot has found has the type of the first line that gives it one. -/
theorem Crew.Reaches.first_type {tracker : SchemaTracker} {batches : List (List InputLine)}
    {crew : Crew} (reaches : (Crew.start tracker batches).Reaches layouts 1 crew)
    (done : crew.Finished) (none : tracker.state.pending = .empty) {field : NewField}
    (fresh : tracker.state.isKnown field.name = false)
    (allowed : tracker.filter.admits field.name = true)
    (pending : field ∈ crew.shared.progress.tracker.state.pendingFields) :
    batches.flatten.findSome? (lineType? layouts field.name) = some field.type := by
  have held := Discoveries.mem_pendingFields_iff.1 pending
  have whole : crew.shared.progress =
      Progress.lookAll layouts { tracker := tracker } batches.flatten :=
    (reaches.progress_eq done).trans List.foldl_flatten.symm
  rw [whole, find?_pending_lookAll allowed, fresh, none] at held
  simpa using held

end

end Cli

end Intake
