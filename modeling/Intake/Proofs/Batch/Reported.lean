import Intake.Proofs.Batch.Replay

/-!
# Every task once, and every crash reported

`Workers.Run.accounted` joins the accounts of a pool to what may be relied on when tasks are handed
in, run, end and crash in any order: the bound on slots, the fate of each task, and the report of
each crash, by one later submission or by joining. It holds of every run, finished or not; what it
says about joining holds when joining has returned, and every run can be brought to that.
-/

namespace Intake.Workers

variable {α : Type} {limit : Nat} {state : State α} {events : List (Event α)}

/-- The task whose crash an event reports. -/
def Event.reported? : Event α → Option Nat
  | refused _ crashed _ => some crashed
  | _ => none

/-- The submissions that were refused with the crash of a task. -/
def reportsOf (events : List (Event α)) (crashed : Nat) : List (Event α) :=
  events.filter fun event => event.reported? = some crashed

/-- A task has crashed, and no submission was refused for it. -/
def LeftToJoin (events : List (Event α)) (task : Nat) (message : String) : Prop :=
  .finished task (.crash message) ∈ events ∧ reportsOf events task = []

/-- A submission was refused or given up. -/
def TurnedAway (events : List (Event α)) (task : Nat) : Prop :=
  .abandoned task ∈ events ∨ ∃ crashed message, .refused task crashed message ∈ events

/-- The events of a task that is accepted, runs once and ends. -/
def fullCourse (task : Nat) (job : Job α) : List (Event α) :=
  [.submitted task job, .accepted task, .started task, .finished task job]

/-- A task has a slot, itself or through its submission. -/
def State.HasSlot (state : State α) (task : Nat) : Prop :=
  ∃ entry, state.tasks[task]? = some entry ∧ entry.stage.slots ≠ 0

/-- What may be relied on when joining has returned, with a crash or without. -/
structure Joined (limit : Nat) (state : State α) (events : List (Event α))
    (crash? : Option String) : Prop where
  inFlight_eq_zero : state.inFlight limit = 0
  /-- Every task that was accepted has run once and has ended. -/
  ended : ∀ task, .accepted task ∈ events → ∃ job, eventsOf events task = fullCourse task job
  /-- Joining returns with a crash exactly if one was left to it. -/
  isSome_iff : crash?.isSome ↔ ∃ task message, LeftToJoin events task message
  /-- The crash is one of those that were left. -/
  left : ∀ message, crash? = some message → ∃ task, LeftToJoin events task message

/-- What may be relied on at any moment, when tasks are handed in, given up, run, end and crash in
any order. -/
structure Accounted (limit : Nat) (state : State α) (events : List (Event α)) : Prop where
  running_le : state.running ≤ state.inFlight limit
  inFlight_le : state.inFlight limit ≤ limit
  /-- The slots in use are those that tasks have, themselves or through their submissions. -/
  inFlight_eq : state.inFlight limit = state.held
  /-- What happens is about tasks that were handed in. Such a task is accepted, runs and ends at
  most once, in this order, or it was turned away. -/
  course : ∀ event ∈ events, ∀ task, event.task? = some task →
    ∃ job, .submitted task job ∈ events ∧
      (eventsOf events task <+: fullCourse task job ∨ TurnedAway events task)
  /-- A task that was turned away never runs, and leaves no slot in use. -/
  turnedAway : ∀ task, TurnedAway events task →
    .accepted task ∉ events ∧ .started task ∉ events ∧ ¬state.HasSlot task
  /-- A submission is refused with the crash of an earlier task, and no other one is refused with
  it. -/
  refused : ∀ task crashed message, .refused task crashed message ∈ events →
    crashed < task ∧ .finished crashed (.crash message) ∈ events ∧
      reportsOf events crashed = [.refused task crashed message]
  /-- The crash of a task is reported by exactly one later submission, or is left. -/
  crashes : ∀ task message, .finished task (.crash message) ∈ events →
    LeftToJoin events task message ∨
      ∃ later, task < later ∧ reportsOf events task = [.refused later task message]
  joined : ∀ crash?, .returned crash? ∈ events → Joined limit state events crash?

/-!
## Slots
-/

/-- Each task that runs has a slot. -/
theorem State.running_le_held (state : State α) : state.running ≤ state.held := by
  unfold running held
  induction state.tasks with
  | nil => exact Nat.zero_le _
  | cons entry rest ih =>
    rw [List.countP_cons, List.map_cons, List.sum_cons]
    by_cases runs : entry.stage = .running
    · have slot : entry.stage.slots = 1 := by rw [runs]; rfl
      rw [if_pos (decide_eq_true runs)]
      omega
    · rw [if_neg (by simpa using runs)]
      omega

/-- The slots in use are those that tasks have. -/
theorem Ledger.inFlight_eq (ledger : Ledger limit state events) :
    state.inFlight limit = state.held := by
  have slots := ledger.slots
  unfold State.inFlight
  omega

/-!
## Events and stages
-/

section

variable {entry : Entry α} {task crashed : Nat} {job : Job α} {message : String}

/-- The task that an event is about was handed in, and has had the event. -/
theorem Ledger.exists_entry (ledger : Ledger limit state events) {event : Event α}
    (inside : event ∈ events) (about : event.task? = some task) :
    ∃ entry, state.tasks[task]? = some entry ∧ event ∈ entry.history task := by
  have history := ledger.history task
  have listed : event ∈ eventsOf events task := List.mem_filter.2 ⟨inside, by simpa using about⟩
  rw [history] at listed
  unfold State.history State.tell at listed
  cases found : state.tasks[task]? with
  | none => simp [found] at listed
  | some entry =>
    rw [found] at listed
    exact ⟨entry, rfl, listed⟩

/-- The events of a task that was handed in. -/
theorem Ledger.eventsOf_eq (ledger : Ledger limit state events)
    (there : state.tasks[task]? = some entry) : eventsOf events task = entry.history task := by
  rw [ledger.history, State.history, State.tell_of_there there]
  rfl

/-- An event that a task has had is one of the run. -/
theorem Ledger.mem_of_history (ledger : Ledger limit state events) {event : Event α}
    (there : state.tasks[task]? = some entry) (had : event ∈ entry.history task) :
    event ∈ events := by
  rw [← ledger.eventsOf_eq there] at had
  exact (List.mem_filter.1 had).1

/-- An event of the run that is about a task is one that this task has had. -/
theorem Ledger.mem_history (ledger : Ledger limit state events) {event : Event α}
    (there : state.tasks[task]? = some entry) (inside : event ∈ events)
    (about : event.task? = some task) : event ∈ entry.history task := by
  rw [← ledger.eventsOf_eq there]
  exact List.mem_filter.2 ⟨inside, decide_eq_true about⟩

/-- A submission that was refused is at the stage that says so. -/
theorem Entry.stage_of_refused (had : .refused task crashed message ∈ entry.history task) :
    entry.stage = .refused crashed message := by
  obtain ⟨job, stage⟩ := entry
  cases stage <;> simp_all [history]

/-- A submission that was given up is at the stage that says so. -/
theorem Entry.stage_of_abandoned (had : .abandoned task ∈ entry.history task) :
    entry.stage = .abandoned := by
  obtain ⟨job, stage⟩ := entry
  cases stage <;> simp_all [history]

/-- A task that was handed in is on the way to its end, or was turned away. -/
theorem Entry.history_cases (entry : Entry α) (task : Nat) :
    entry.history task <+: fullCourse task entry.job ∨ .abandoned task ∈ entry.history task ∨
      ∃ crashed message, .refused task crashed message ∈ entry.history task := by
  obtain ⟨job, stage⟩ := entry
  cases stage <;> simp [history, fullCourse]

/-- The job of a task is the one that has ended. -/
theorem Entry.job_of_finished (had : .finished task job ∈ entry.history task) :
    entry.job = job := by
  obtain ⟨other, stage⟩ := entry
  cases stage <;> simp_all [history]

/-- A task that was accepted is settled when nothing more will happen to it. -/
theorem Entry.settled_of_accepted (had : .accepted task ∈ entry.history task)
    (done : entry.stage.done = true) : ∃ submission?, entry.stage = .settled submission? := by
  obtain ⟨job, stage⟩ := entry
  cases stage <;> simp_all [history, Stage.done]

/-- A task that has ended was accepted. -/
theorem Entry.accepted_of_finished (had : .finished task job ∈ entry.history task) :
    .accepted task ∈ entry.history task := by
  obtain ⟨other, stage⟩ := entry
  cases stage <;> simp_all [history]

/-- A task that is settled has been through it all. -/
theorem Entry.history_of_settled {submission? : Option Nat}
    (settled : entry.stage = .settled submission?) :
    entry.history task = fullCourse task entry.job := by
  rw [history, settled]
  rfl

/-!
## Reports
-/

/-- The crash that a submission was refused with is held by this submission. -/
theorem Ledger.blamer?_of_refused (ledger : Ledger limit state events)
    (inside : .refused task crashed message ∈ events) :
    state.tell Entry.blamer? crashed = some (task, message) := by
  obtain ⟨entry, there, had⟩ := ledger.exists_entry inside rfl
  apply (ledger.blamed task crashed message).1
  rw [State.tell_of_there there, Entry.blame?, Entry.stage_of_refused had]

/-- A crash that is held by a submission is that of a settled task. -/
theorem Entry.of_blamer? (holds : entry.blamer? = some (task, message)) :
    entry = ⟨.crash message, .settled (some task)⟩ := by
  obtain ⟨job, stage⟩ := entry
  cases stage with
  | settled submission? => cases submission? <;> cases job <;> simp_all [blamer?, Job.crash?]
  | _ => cases holds

/-- A crash that was left to joining is that of a settled task. -/
theorem Entry.left?_eq_some_iff :
    entry.left? = some message ↔ entry = ⟨.crash message, .settled none⟩ := by
  obtain ⟨job, stage⟩ := entry
  cases stage with
  | settled submission? => cases submission? <;> cases job <;> simp [left?, Job.crash?]
  | _ => simp [left?]

/-- A submission that blames a crash was refused with it when nothing more will happen to it. -/
theorem Entry.refused_of_blame? (blames : entry.blame? = some (crashed, message))
    (done : entry.stage.done = true) :
    .refused task crashed message ∈ entry.history task := by
  obtain ⟨job, stage⟩ := entry
  cases stage <;> simp_all [blame?, history, Stage.done]

/-- The event is a refusal with the crash of the task. -/
theorem mem_reportsOf {event : Event α} (inside : event ∈ reportsOf events crashed) :
    ∃ task message, event = .refused task crashed message ∧ event ∈ events := by
  obtain ⟨listed, reports⟩ := List.mem_filter.1 inside
  cases event with
  | refused task other message =>
    obtain rfl : other = crashed := by simpa [Event.reported?] using reports
    exact ⟨task, message, rfl, listed⟩
  | _ => simp [Event.reported?] at reports

/-- All that reports a crash is the one refusal. -/
theorem Ledger.reportsOf_of_refused (ledger : Ledger limit state events)
    (inside : .refused task crashed message ∈ events) :
    reportsOf events crashed = [.refused task crashed message] := by
  -- Whatever reports the crash is about the same task, so that the history of this task shows it.
  have same : reportsOf events crashed =
      (eventsOf events task).filter fun event => event.reported? = some crashed := by
    rw [eventsOf, List.filter_filter]
    apply List.filter_congr
    intro event listed
    by_cases reports : event.reported? = some crashed
    · obtain ⟨later, text, rfl, -⟩ :=
        mem_reportsOf (List.mem_filter.2 ⟨listed, decide_eq_true reports⟩)
      have first := ledger.blamer?_of_refused inside
      rw [ledger.blamer?_of_refused listed] at first
      obtain ⟨rfl, -⟩ := Prod.mk.inj (Option.some.inj first)
      simp [Event.task?]
    · simp [reports]
  obtain ⟨entry, there, had⟩ := ledger.exists_entry inside rfl
  rw [same, ledger.eventsOf_eq there, Entry.history, Entry.stage_of_refused had]
  simp [Event.reported?]

/-- A submission is refused with the crash of an earlier task, and it alone. -/
theorem Ledger.of_refused (ledger : Ledger limit state events)
    (inside : .refused task crashed message ∈ events) :
    crashed < task ∧ .finished crashed (.crash message) ∈ events ∧
      reportsOf events crashed = [.refused task crashed message] := by
  have holds := ledger.blamer?_of_refused inside
  obtain ⟨entry, there, holder⟩ := State.there_of_tell holds
  obtain rfl := Entry.of_blamer? holder
  refine ⟨?_, ledger.mem_of_history there ?_, ledger.reportsOf_of_refused inside⟩
  · exact ledger.blamesEarlier task crashed message ((ledger.blamed _ _ _).2 holds)
  · simp [Entry.history]

/-- A crash is reported by one later submission, or is left. -/
theorem Ledger.of_finished (ledger : Ledger limit state events)
    (inside : .finished task (.crash message) ∈ events) :
    LeftToJoin events task message ∨
      ∃ later, task < later ∧ reportsOf events task = [.refused later task message] := by
  by_cases unreported : reportsOf events task = []
  · exact .inl ⟨inside, unreported⟩
  · obtain ⟨event, listed⟩ := List.exists_mem_of_ne_nil _ unreported
    obtain ⟨later, text, rfl, refused⟩ := mem_reportsOf listed
    obtain ⟨earlier, crashed, reports⟩ := ledger.of_refused refused
    -- Both messages are that of the one job.
    obtain ⟨entry, there, had⟩ := ledger.exists_entry inside rfl
    have has := ledger.mem_history there crashed rfl
    have same := (Entry.job_of_finished had).symm.trans (Entry.job_of_finished has)
    obtain rfl := Job.crash.inj same
    exact .inr ⟨later, earlier, reports⟩

/-- When nothing more will happen to any task, the crashes that no submission was refused with are
those that joining has collected. -/
theorem Ledger.leftToJoin_iff (ledger : Ledger limit state events)
    (done : ∀ entry ∈ state.tasks, entry.stage.done = true) :
    LeftToJoin events task message ↔ state.tell Entry.left? task = some message := by
  constructor
  · rintro ⟨inside, unreported⟩
    obtain ⟨⟨job, stage⟩, there, had⟩ := ledger.exists_entry inside rfl
    obtain rfl := Entry.job_of_finished had
    obtain ⟨submission?, rfl⟩ := Entry.settled_of_accepted (Entry.accepted_of_finished had)
      (done _ (List.mem_of_getElem? there))
    cases submission? with
    | none => rw [State.tell_of_there there, Entry.left?_eq_some_iff]
    | some later =>
      -- The submission that holds the crash was refused with it.
      have holds : state.tell Entry.blamer? task = some (later, message) :=
        State.tell_of_there there
      obtain ⟨entry, found, blames⟩ :=
        State.there_of_tell ((ledger.blamed later task message).2 holds)
      have refused : .refused later task message ∈ entry.history later :=
        Entry.refused_of_blame? blames (done _ (List.mem_of_getElem? found))
      have listed : .refused later task message ∈ reportsOf events task :=
        List.mem_filter.2 ⟨ledger.mem_of_history found refused, by simp [Event.reported?]⟩
      simp [unreported] at listed
  · intro left
    obtain ⟨entry, there, tells⟩ := State.there_of_tell left
    obtain rfl := Entry.left?_eq_some_iff.1 tells
    refine ⟨ledger.mem_of_history there (by simp [Entry.history]), ?_⟩
    apply List.eq_nil_iff_forall_not_mem.2
    intro event listed
    obtain ⟨later, text, rfl, refused⟩ := mem_reportsOf listed
    have holds := ledger.blamer?_of_refused refused
    rw [State.tell_of_there there] at holds
    cases holds

/-- A pool that has been joined has done what was asked of it. -/
theorem Ledger.joined (ledger : Ledger limit state events) {crash? : Option String}
    (returned : .returned crash? ∈ events) : Joined limit state events crash? := by
  have phase := (ledger.returned crash?).1 returned
  have done := ledger.closed crash? phase
  obtain ⟨found, none_left⟩ := ledger.kept
  rw [phase] at found none_left
  have left : ∀ message, crash? = some message → ∃ task, LeftToJoin events task message := by
    intro message first
    obtain ⟨task, tells⟩ := found message first
    exact ⟨task, (ledger.leftToJoin_iff done).2 tells⟩
  constructor
  case inFlight_eq_zero =>
    rw [ledger.inFlight_eq]
    exact State.held_eq_zero fun entry inside => .inl (done entry inside)
  case ended =>
    intro task accepted
    obtain ⟨entry, there, had⟩ := ledger.exists_entry accepted rfl
    obtain ⟨submission?, settled⟩ :=
      Entry.settled_of_accepted had (done entry (List.mem_of_getElem? there))
    exact ⟨entry.job, (ledger.eventsOf_eq there).trans (Entry.history_of_settled settled)⟩
  case isSome_iff =>
    constructor
    · intro crashed
      obtain ⟨message, first⟩ := Option.isSome_iff_exists.1 crashed
      obtain ⟨task, is_left⟩ := left message first
      exact ⟨task, message, is_left⟩
    · rintro ⟨task, message, is_left⟩
      rw [Option.isSome_iff_ne_none]
      intro nothing
      have tells := (ledger.leftToJoin_iff done).1 is_left
      rw [none_left nothing task] at tells
      cases tells
  case left => exact left

/-- A task that was turned away has neither run nor kept a slot. -/
theorem Ledger.turnedAway (ledger : Ledger limit state events) (away : TurnedAway events task) :
    .accepted task ∉ events ∧ .started task ∉ events ∧ ¬state.HasSlot task := by
  obtain ⟨entry, there, stage⟩ : ∃ entry, state.tasks[task]? = some entry ∧
      (entry.stage = .abandoned ∨ ∃ crashed message, entry.stage = .refused crashed message) := by
    rcases away with abandoned | ⟨crashed, message, refused⟩
    · obtain ⟨entry, there, had⟩ := ledger.exists_entry abandoned rfl
      exact ⟨entry, there, .inl (Entry.stage_of_abandoned had)⟩
    · obtain ⟨entry, there, had⟩ := ledger.exists_entry refused rfl
      exact ⟨entry, there, .inr ⟨crashed, message, Entry.stage_of_refused had⟩⟩
  refine ⟨fun accepted => ?_, fun started => ?_, fun ⟨other, found, slot⟩ => ?_⟩
  · have had := ledger.mem_history there accepted rfl
    rcases stage with stage | ⟨crashed, message, stage⟩ <;> simp [Entry.history, stage] at had
  · have had := ledger.mem_history there started rfl
    rcases stage with stage | ⟨crashed, message, stage⟩ <;> simp [Entry.history, stage] at had
  · obtain rfl : entry = other := Option.some.inj (there.symm.trans found)
    rcases stage with stage | ⟨crashed, message, stage⟩ <;> simp [Stage.slots, stage] at slot

/-- What happens is about tasks on the way to their end, or turned away. -/
theorem Ledger.course (ledger : Ledger limit state events) {event : Event α}
    (inside : event ∈ events) (about : event.task? = some task) :
    ∃ job, .submitted task job ∈ events ∧
      (eventsOf events task <+: fullCourse task job ∨ TurnedAway events task) := by
  obtain ⟨entry, there, -⟩ := ledger.exists_entry inside about
  refine ⟨entry.job, ledger.mem_of_history there List.mem_cons_self, ?_⟩
  rw [ledger.eventsOf_eq there]
  rcases entry.history_cases task with course | abandoned | ⟨crashed, message, refused⟩
  · exact .inl course
  · exact .inr (.inl (ledger.mem_of_history there abandoned))
  · exact .inr (.inr ⟨crashed, message, ledger.mem_of_history there refused⟩)

/-- The ledger of a run holds what may be relied on. -/
theorem Ledger.accounts (ledger : Ledger limit state events) : Accounted limit state events where
  running_le := ledger.inFlight_eq ▸ state.running_le_held
  inFlight_le := Nat.sub_le ..
  inFlight_eq := ledger.inFlight_eq
  course _ inside _ := ledger.course inside
  turnedAway _ := ledger.turnedAway
  refused _ _ _ := ledger.of_refused
  crashes _ _ := ledger.of_finished
  joined _ := ledger.joined

/-- A pool with any number of slots accounts for every task and every crash, whatever the order of
submissions, ends and crashes, and can always be brought to the point where joining returns. What
`TaskPool` does is one such order. -/
theorem Run.accounted {slots : Nat} {pool : TaskPool α} (made : TaskPool.create slots = .ok pool)
    {state : State α} {events : List (Event α)} (run : Run pool.limit state events) :
    pool.limit = max slots 1 ∧ Accounted pool.limit state events ∧
      (∃ final more crash?, Run pool.limit final (events ++ more) ∧
        .returned crash? ∈ events ++ more) ∧
      ∀ requests, pool.Replayable requests := by
  have limit_eq : pool.limit = max slots 1 := by rw [TaskPool.eq_of_create made]
  refine ⟨limit_eq, run.ledger.accounts, ?_, TaskPool.replayable made⟩
  obtain ⟨final, more, crash?, ends, returned⟩ := run.exists_returned (by omega)
  exact ⟨final, more, crash?, ends, (ends.ledger.returned crash?).2 returned⟩

/-- In a pool that is made with no slots there is one. A crash that a submission was refused with is
reported only there, and the next task is accepted. -/
theorem boom_accounted : ∃ (pool : TaskPool Nat) (state : State Nat) (events : List (Event Nat)),
    TaskPool.create 0 = .ok pool ∧ Run pool.limit state events ∧
      events.filterMap Event.answer? = [.accepted, .refused "boom", .accepted] ∧
      pool.limit = 1 ∧ state.inFlight 1 = 1 ∧ state.running ≤ 1 ∧
      ∃ task crashed, crashed < task ∧
        reportsOf events crashed = [.refused task crashed "boom"] ∧
        .started task ∉ events := by
  have made : TaskPool.create 0 = .ok ({ limit := 1 } : TaskPool Nat) := rfl
  obtain ⟨state, events, run, answers, inFlight, -⟩ := TaskPool.replayable made
    [.submit (.crash "boom"), .finish 0, .submit (.deliver 7), .submit (.deliver 8)]
  obtain ⟨limit_eq, accounted, -⟩ := Run.accounted made run
  have answered : Submission.refused "boom" ∈ events.filterMap Event.answer? := by
    rw [answers]
    decide
  obtain ⟨event, inside, shows⟩ := List.mem_filterMap.1 answered
  obtain ⟨task, crashed, rfl⟩ : ∃ task crashed, event = .refused task crashed "boom" := by
    cases event <;> simp_all [Event.answer?]
  obtain ⟨earlier, -, reports⟩ := accounted.refused task crashed "boom" inside
  refine ⟨_, state, events, made, run, answers, limit_eq, inFlight, ?_, task, crashed, earlier,
    reports, (accounted.turnedAway task (.inr ⟨crashed, "boom", inside⟩)).2.1⟩
  exact Nat.le_trans accounted.running_le accounted.inFlight_le

end

end Intake.Workers
