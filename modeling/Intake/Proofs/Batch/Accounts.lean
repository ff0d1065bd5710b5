import Intake.Proofs.Batch.Workers

/-!
# Accounts of a pool of workers

What a pool of workers keeps whatever the order of its steps: the slots, free or in use, are all
there, the events of a task are those that its stage calls for, and every crash that was collected
is held by the submission that was refused with it, or by joining. `Run.ledger` says so.
-/

namespace Intake.Workers

variable {α : Type}

/-!
## What is accounted for
-/

/-- The task that an event is about. -/
def Event.task? : Event α → Option Nat
  | submitted task _ | abandoned task | refused task _ _ | accepted task | started task
  | finished task _ => some task
  | returned _ => none

/-- The events that are about a task, in order. -/
def eventsOf (events : List (Event α)) (task : Nat) : List (Event α) :=
  events.filter fun event => event.task? = some task

theorem eventsOf_append (events more : List (Event α)) (task : Nat) :
    eventsOf (events ++ more) task = eventsOf events task ++ eventsOf more task :=
  List.filter_append ..

/-- The events that a task has had when it is at its stage. -/
def Entry.history (task : Nat) (entry : Entry α) : List (Event α) :=
  .submitted task entry.job ::
    match entry.stage with
    | .waiting | .granted | .collecting | .cleared | .refusing _ _ => []
    | .refused crashed message => [.refused task crashed message]
    | .abandoned => [.abandoned task]
    | .queued => [.accepted task]
    | .running => [.accepted task, .started task]
    | .stopped | .leaving | .ended | .settled _ =>
      [.accepted task, .started task, .finished task entry.job]

/-- The crash that the submission of a task was or will be refused with. -/
def Entry.blame? (entry : Entry α) : Option (Nat × String) :=
  match entry.stage with
  | .refusing crashed message | .refused crashed message => some (crashed, message)
  | _ => none

/-- The submission that has collected the crash of a task. -/
def Entry.blamer? (entry : Entry α) : Option (Nat × String) :=
  match entry.stage with
  | .settled (some submission) => entry.job.crash?.map fun message => (submission, message)
  | _ => none

/-- The crash of a task that was left to joining. -/
def Entry.left? (entry : Entry α) : Option String :=
  match entry.stage with
  | .settled none => entry.job.crash?
  | _ => none

namespace State

/-- The slots that tasks and their submissions have. -/
def held (state : State α) : Nat := (state.tasks.map fun entry => entry.stage.slots).sum

/-- What can be told of a task; nothing, if no such task was handed in. -/
def tell {β : Type} (state : State α) (what : Entry α → Option β) (task : Nat) : Option β :=
  state.tasks[task]?.bind what

/-- The events that a task has had. -/
def history (state : State α) (task : Nat) : List (Event α) :=
  (state.tell (fun entry => some (entry.history task)) task).getD []

variable {state : State α} {task : Nat} {job : Job α} {stage : Stage}

/-- A task comes to another stage, and the slots in use change by its own. -/
theorem held_put (next : Stage) (there : state.tasks[task]? = some ⟨job, stage⟩) :
    (state.put task job next).held + stage.slots = state.held + next.slots :=
  sum_put (fun entry => entry.stage.slots) next there

theorem tell_put {β : Type} (what : Entry α → Option β) (next : Stage)
    (there : state.tasks[task]? = some ⟨job, stage⟩) (other : Nat) :
    (state.put task job next).tell what other =
      if other = task then what ⟨job, next⟩ else state.tell what other := by
  unfold tell
  rw [getElem?_put there]
  split <;> rfl

/-- A task that comes to a stage of which the same can be told changes nothing. -/
theorem tell_put_of_same {β : Type} (what : Entry α → Option β) (next : Stage)
    (there : state.tasks[task]? = some ⟨job, stage⟩) (same : what ⟨job, next⟩ = what ⟨job, stage⟩) :
    (state.put task job next).tell what = state.tell what := by
  funext other
  rw [tell_put what next there]
  split
  · rename_i here
    rw [same, tell, here, there]
    rfl
  · rfl

theorem tell_of_there {β : Type} {what : Entry α → Option β} {entry : Entry α}
    (there : state.tasks[task]? = some entry) : state.tell what task = what entry := by
  rw [tell, there]
  rfl

/-- What can be told of a task is told of one that was handed in. -/
theorem there_of_tell {β : Type} {what : Entry α → Option β} {told : β}
    (tells : state.tell what task = some told) :
    ∃ entry, state.tasks[task]? = some entry ∧ what entry = some told :=
  Option.bind_eq_some_iff.1 tells

end State

/-!
## Steps
-/

section

variable {task : Nat} {job : Job α} {free after : Nat} {stage next : Stage}
  {event? : Option (Event α)}

/-- A task gives back the slots that it no longer has. -/
theorem Move.slots (move : Move task job free stage event? after next) :
    after + next.slots = free + stage.slots := by
  cases move <;> simp [Stage.slots]

/-- A task has the events that its stages call for. -/
theorem Move.history (move : Move task job free stage event? after next) :
    Entry.history task ⟨job, next⟩ = Entry.history task ⟨job, stage⟩ ++ event?.toList := by
  cases move <;> rfl

theorem Move.task?_eq (move : Move task job free stage event? after next) :
    ∀ event ∈ event?, event.task? = some task := by
  cases move <;> simp [Event.task?]

/-- No submission begins by a move, and one that is refused stays so. -/
theorem Move.submitting (move : Move task job free stage event? after next)
    (later : next.submitting = true) : stage.submitting = true := by
  cases move <;> simp_all [Stage.submitting]

/-- No move is made by a task with which all is done. -/
theorem Move.not_done (move : Move task job free stage event? after next) : stage.done = false := by
  cases move <;> rfl

/-- A move settles nothing and blames nobody else. -/
theorem Move.settles_nothing (move : Move task job free stage event? after next) :
    Entry.blame? ⟨job, next⟩ = Entry.blame? ⟨job, stage⟩ ∧
      Entry.blamer? ⟨job, next⟩ = Entry.blamer? ⟨job, stage⟩ ∧
      Entry.left? ⟨job, next⟩ = Entry.left? ⟨job, stage⟩ := by
  cases move <;> exact ⟨rfl, rfl, rfl⟩

end

section

variable {state next : State α} {event? : Option (Event α)} {task other : Nat}

/-- A submission is still where it was when it has collected an outcome. -/
theorem State.there_of_settled {job otherJob : Job α} (stage : Stage)
    (there : state.tasks[task]? = some ⟨job, .collecting⟩)
    (ended : state.tasks[other]? = some ⟨otherJob, .ended⟩) :
    (state.put other otherJob stage).tasks[task]? = some ⟨job, .collecting⟩ := by
  have apart : task ≠ other := by
    rintro rfl
    simp [there] at ended
  rw [getElem?_put ended, if_neg apart, there]

section

variable {job : Job α} {message : String}

/-- A submission that has collected a crash will be refused with it. -/
theorem State.tell_blame? (there : state.tasks[task]? = some ⟨job, .collecting⟩)
    (ended : state.tasks[other]? = some ⟨.crash message, .ended⟩) (one : Nat) :
    ((state.put other (.crash message) (.settled (some task))).put task job
        (.refusing other message)).tell Entry.blame? one =
      if one = task then some (other, message) else state.tell Entry.blame? one := by
  rw [tell_put _ _ (there_of_settled _ there ended),
    tell_put_of_same _ (.settled (some task)) ended rfl]
  rfl

/-- A crash that a submission has collected is held by it. -/
theorem State.tell_blamer? (there : state.tasks[task]? = some ⟨job, .collecting⟩)
    (ended : state.tasks[other]? = some ⟨.crash message, .ended⟩) (one : Nat) :
    ((state.put other (.crash message) (.settled (some task))).put task job
        (.refusing other message)).tell Entry.blamer? one =
      if one = other then some (task, message) else state.tell Entry.blamer? one := by
  rw [tell_put_of_same _ (.refusing other message) (there_of_settled _ there ended) rfl,
    tell_put _ _ ended]
  rfl

end

/-- Slots are neither made nor lost. -/
theorem Turn.slots (turn : Turn state event? next) :
    next.free + next.held = state.free + state.held := by
  cases turn with
  | @move task job stage _ free after there moves =>
    have held := State.held_put after there
    have given := moves.slots
    change free + (state.put task job after).held = _
    omega
  | @collect task job other value there ended =>
    have held := State.held_put (.settled (some task)) ended
    simpa [Stage.slots] using held
  | @blame task job other message there ended =>
    have settled := State.held_put (.settled (some task)) ended
    have refusing := State.held_put (.refusing other message)
      (State.there_of_settled (.settled (some task)) there ended)
    simp only [Stage.slots, State.free_put] at settled refusing ⊢
    omega
  | @clear task job there none_ended =>
    have held := State.held_put .cleared there
    simpa [Stage.slots] using held
  | @gather crash? other job joining ended =>
    have held := State.held_put (.settled none) ended
    change state.free + (state.put other job (.settled none)).held = _
    simp only [Stage.slots] at held
    omega
  | join | finish => rfl

/-- A turn adds the events that the stages of its task call for. -/
theorem Turn.history (turn : Turn state event? next) (one : Nat) :
    next.history one = state.history one ++ eventsOf event?.toList one := by
  -- The stages between which outcomes are collected have the same history.
  have same (state : State α) {task : Nat} {job : Job α} {stage : Stage} (after : Stage)
      (there : state.tasks[task]? = some ⟨job, stage⟩)
      (calls : Entry.history one ⟨job, after⟩ = Entry.history one ⟨job, stage⟩) :
      (state.put task job after).history one = state.history one ++ [] := by
    have tells := State.tell_put_of_same (fun entry => some (entry.history one)) after there
      (congrArg some calls)
    rw [List.append_nil, State.history, State.history, tells]
  cases turn with
  | @move task job stage _ free after there moves =>
    change (state.put task job after).history one = _
    rw [State.history, State.tell_put _ after there]
    by_cases here : one = task
    · subst here
      have about : eventsOf event?.toList one = event?.toList := by
        apply List.filter_eq_self.2
        intro event inside
        simpa using moves.task?_eq event (Option.mem_toList.1 inside)
      rw [if_pos rfl, State.history, State.tell_of_there there, moves.history, about]
      rfl
    · have apart : eventsOf event?.toList one = [] := by
        apply List.filter_eq_nil_iff.2
        intro event inside
        rw [moves.task?_eq event (Option.mem_toList.1 inside)]
        simpa using Ne.symm here
      rw [if_neg here, apart, List.append_nil]
      rfl
  | @collect task job other value there ended => exact same state _ ended rfl
  | @blame task job other message there ended =>
    rw [same _ (.refusing other message) (State.there_of_settled _ there ended) rfl,
      same state (.settled (some task)) ended rfl, List.append_nil]
    rfl
  | clear there none_ended => exact same state _ there rfl
  | @gather crash? other job joining ended => exact same state (.settled none) ended rfl
  | join | finish => exact (List.append_nil _).symm

/-- Every crash that a submission was or will be refused with was collected by this submission, and
every crash that a submission has collected is one that it will be refused with. -/
def State.Blamed (state : State α) : Prop :=
  ∀ task crashed message, state.tell Entry.blame? task = some (crashed, message) ↔
    state.tell Entry.blamer? crashed = some (task, message)

theorem State.Blamed.congr (blamed : state.Blamed)
    (blame : next.tell Entry.blame? = state.tell Entry.blame?)
    (blamer : next.tell Entry.blamer? = state.tell Entry.blamer?) : next.Blamed := by
  intro task crashed message
  rw [blame, blamer]
  exact blamed task crashed message

theorem Turn.blamed (turn : Turn state event? next) (blamed : state.Blamed) : next.Blamed := by
  cases turn with
  | @move task job stage _ free after there moves =>
    obtain ⟨blame, blamer, -⟩ := moves.settles_nothing
    exact blamed.congr (State.tell_put_of_same _ after there blame)
      (State.tell_put_of_same _ after there blamer)
  | collect there ended =>
    exact blamed.congr (State.tell_put_of_same _ _ ended rfl) (State.tell_put_of_same _ _ ended rfl)
  | clear there none_ended =>
    exact blamed.congr (State.tell_put_of_same _ _ there rfl) (State.tell_put_of_same _ _ there rfl)
  | @gather crash? other job joining ended =>
    exact blamed.congr (State.tell_put_of_same _ (.settled none) ended rfl)
      (State.tell_put_of_same _ (.settled none) ended rfl)
  | join | finish => exact blamed
  | @blame task job other message there ended =>
    have innocent : state.tell Entry.blame? task = none := State.tell_of_there there
    have unsettled : state.tell Entry.blamer? other = none := State.tell_of_there ended
    intro one crashed text
    rw [State.tell_blame? there ended, State.tell_blamer? there ended]
    by_cases accused : one = task
    · by_cases here : crashed = other
      · simp [accused, here]
      · -- Nothing else is collected by this submission.
        have known := blamed task crashed text
        rw [innocent] at known
        simpa [accused, here, Ne.symm here] using known
    · by_cases here : crashed = other
      · have known := blamed one other text
        rw [unsettled] at known
        simpa [accused, here, Ne.symm accused] using known
      · rw [if_neg accused, if_neg here]
        exact blamed one crashed text

/-- A submission that is under way is that of the last task, and the pool is not joined yet. -/
def State.Orderly (state : State α) : Prop :=
  ∀ task entry, state.tasks[task]? = some entry → entry.stage.submitting = true →
    task + 1 = state.tasks.length ∧ state.phase = .accepting

theorem State.Orderly.put {job : Job α} {stage : Stage} (orderly : state.Orderly) (after : Stage)
    (there : state.tasks[task]? = some ⟨job, stage⟩)
    (keeps : after.submitting = true → stage.submitting = true) :
    (state.put task job after).Orderly := by
  intro one entry found submits
  rw [getElem?_put there] at found
  rw [length_put, phase_put]
  split at found
  · rename_i here
    obtain rfl := Option.some.inj found
    exact here ▸ orderly task _ there (keeps submits)
  · exact orderly one entry found submits

/-- Where no submission is under way, the phase does not matter. -/
theorem State.Orderly.of_idle {phase : Phase} (idle : state.Idle) :
    State.Orderly { state with phase := phase } := by
  intro task entry found submits
  have none := idle entry (List.mem_of_getElem? found)
  simp [none] at submits

theorem State.Orderly.idle (orderly : state.Orderly) (apart : state.phase ≠ .accepting) :
    state.Idle := by
  intro entry inside
  obtain ⟨task, found⟩ := List.mem_iff_getElem?.1 inside
  cases submits : entry.stage.submitting with
  | false => rfl
  | true => exact absurd (orderly task entry found submits).2 apart

theorem Turn.orderly (turn : Turn state event? next) (orderly : state.Orderly) :
    next.Orderly := by
  cases turn with
  | move there moves => exact orderly.put _ there moves.submitting
  | @collect task job other value there ended => exact orderly.put (.settled _) ended nofun
  | clear there none_ended => exact orderly.put _ there fun _ => rfl
  | @blame task job other message there ended =>
    have settled := orderly.put (.settled (some task)) ended nofun
    exact settled.put _ (State.there_of_settled _ there ended) fun _ => rfl
  | join accepting idle => exact .of_idle idle
  | gather joining ended =>
    have settled := orderly.put (.settled none) ended nofun
    exact .of_idle (settled.idle (by simp [joining]))
  | finish joining done => exact .of_idle (orderly.idle (by simp [joining]))

/-- Submissions are refused with crashes of earlier tasks. -/
def State.BlamesEarlier (state : State α) : Prop :=
  ∀ task crashed message, state.tell Entry.blame? task = some (crashed, message) → crashed < task

theorem Turn.blamesEarlier (turn : Turn state event? next) (orderly : state.Orderly)
    (earlier : state.BlamesEarlier) : next.BlamesEarlier := by
  have frame {other : State α} (same : other.tell Entry.blame? = state.tell Entry.blame?) :
      other.BlamesEarlier := by
    intro task crashed message blame
    rw [same] at blame
    exact earlier task crashed message blame
  cases turn with
  | @move task job stage _ free after there moves =>
    exact frame (State.tell_put_of_same _ after there moves.settles_nothing.1)
  | collect there ended => exact frame (State.tell_put_of_same _ _ ended rfl)
  | clear there none_ended => exact frame (State.tell_put_of_same _ _ there rfl)
  | gather joining ended => exact frame (State.tell_put_of_same _ (.settled none) ended rfl)
  | join | finish => exact earlier
  | @blame task job other message there ended =>
    intro one crashed text blame
    rw [State.tell_blame? there ended] at blame
    split at blame
    · rename_i here
      obtain ⟨rfl, rfl⟩ := Prod.mk.inj (Option.some.inj blame)
      have last := (orderly task _ there rfl).1
      have inside := (List.getElem?_eq_some_iff.1 ended).1
      have apart : other ≠ task := by
        rintro rfl
        simp [there] at ended
      omega
    · exact earlier one crashed text blame

/-- Joining has found a crash where one was left to it. -/
structure State.Kept (state : State α) : Prop where
  found : ∀ message, state.phase.crash? = some message →
    ∃ task, state.tell Entry.left? task = some message
  none_left : state.phase.crash? = none → ∀ task, state.tell Entry.left? task = none

theorem Turn.kept (turn : Turn state event? next) (kept : state.Kept) : next.Kept := by
  have frame {other : State α} (same : other.tell Entry.left? = state.tell Entry.left?)
      (phase : other.phase.crash? = state.phase.crash?) : other.Kept := by
    constructor
    · rw [same, phase]
      exact kept.found
    · rw [same, phase]
      exact kept.none_left
  cases turn with
  | @move task job stage _ free after there moves =>
    exact frame (State.tell_put_of_same _ after there moves.settles_nothing.2.2) rfl
  | collect there ended => exact frame (State.tell_put_of_same _ _ ended rfl) rfl
  | clear there none_ended => exact frame (State.tell_put_of_same _ _ there rfl) rfl
  | @blame task job other message there ended =>
    refine frame ?_ rfl
    rw [State.tell_put_of_same _ (.refusing other message)
        (State.there_of_settled _ there ended) rfl,
      State.tell_put_of_same _ (.settled (some task)) ended rfl]
  | join accepting idle => exact frame rfl (by rw [accepting]; rfl)
  | finish joining done => exact frame rfl (by rw [joining]; rfl)
  | @gather crash? other job joining ended =>
    have left : ∀ one, State.tell { state.put other job (.settled none) with
        phase := .joining (crash?.or job.crash?) } Entry.left? one =
        if one = other then job.crash? else state.tell Entry.left? one :=
      State.tell_put Entry.left? (.settled none) ended
    have unsettled : state.tell Entry.left? other = none := State.tell_of_there ended
    obtain ⟨found, none_left⟩ := kept
    rw [joining] at found none_left
    constructor
    · intro message first
      rcases Option.or_eq_some_iff.1 first with earlier | ⟨-, here⟩
      · obtain ⟨task, was⟩ := found message earlier
        refine ⟨task, (left task).trans ?_⟩
        rw [if_neg, was]
        rintro rfl
        simp [unsettled] at was
      · exact ⟨other, (left other).trans ((if_pos rfl).trans here)⟩
    · intro nothing task
      obtain ⟨earlier, here⟩ := Option.or_eq_none_iff.1 nothing
      rw [left task]
      split
      · exact here
      · exact none_left earlier task

/-- When joining has returned, nothing more will happen to any task. -/
def State.Closed (state : State α) : Prop :=
  ∀ crash?, state.phase = .returned crash? → ∀ entry ∈ state.tasks, entry.stage.done = true

theorem Turn.closed (turn : Turn state event? next) (closed : state.Closed) : next.Closed := by
  have still {other : State α} {task : Nat} {entry : Entry α}
      (there : state.tasks[task]? = some entry) (busy : entry.stage.done = false)
      (phase : other.phase = state.phase) : other.Closed := by
    intro crash? returned
    have all := closed crash? (phase ▸ returned) entry (List.mem_of_getElem? there)
    simp [busy] at all
  cases turn with
  | move there moves => exact still there moves.not_done rfl
  | collect there ended => exact still there rfl rfl
  | clear there none_ended => exact still there rfl rfl
  | blame there ended => exact still there rfl rfl
  | join accepting idle => nofun
  | gather joining ended => nofun
  | finish joining done => exact fun _ _ => done

end

/-!
## Runs
-/

/-- What every run keeps. -/
structure Ledger (limit : Nat) (state : State α) (events : List (Event α)) : Prop where
  slots : state.free + state.held = limit
  history : ∀ task, eventsOf events task = state.history task
  orderly : state.Orderly
  blamed : state.Blamed
  blamesEarlier : state.BlamesEarlier
  kept : state.Kept
  closed : state.Closed
  returned : ∀ crash?, .returned crash? ∈ events ↔ state.phase = .returned crash?

section

variable {state next : State α} {event? : Option (Event α)} {events : List (Event α)} {limit : Nat}

/-- Joining returns once, and nothing happens afterwards. -/
theorem Turn.phase_eq (turn : Turn state event? next) (crash? : Option String) :
    next.phase = .returned crash? ↔
      state.phase = .returned crash? ∨ event? = some (.returned crash?) := by
  cases turn with
  | move there moves =>
    have other : event? ≠ some (.returned crash?) := by
      rintro rfl
      exact Option.some_ne_none _ (moves.task?_eq _ rfl).symm
    simp [other]
  | collect | blame | clear => simp
  | join accepting idle => simp [accepting]
  | gather joining ended => simp [joining]
  | finish joining done => simp [joining]

theorem State.tell_handIn {β : Type} (what : Entry α → Option β) (job : Job α) (one : Nat) :
    (state.handIn job).tell what one =
      if one = state.tasks.length then what ⟨job, .waiting⟩ else state.tell what one := by
  unfold tell
  rw [getElem?_handIn]
  split <;> rfl

/-- A task that is handed in adds nothing to what cannot be told of it. -/
theorem State.tell_handIn_of_none {β : Type} (what : Entry α → Option β) (job : Job α)
    (nothing : what ⟨job, .waiting⟩ = none) : (state.handIn job).tell what = state.tell what := by
  funext one
  rw [tell_handIn]
  split
  · rename_i last
    rw [nothing, last, tell, List.getElem?_eq_none (Nat.le_refl _)]
    rfl
  · rfl

theorem Ledger.start : Ledger (α := α) limit { free := limit } [] where
  slots := rfl
  history _ := rfl
  orderly _ _ found := by simp at found
  blamed _ _ _ := by simp [State.tell]
  blamesEarlier _ _ _ := by simp [State.tell]
  kept := ⟨nofun, fun _ _ => rfl⟩
  closed := nofun
  returned := by simp

theorem Ledger.turn (ledger : Ledger limit state events) (turn : Turn state event? next) :
    Ledger limit next (events ++ event?.toList) where
  slots := turn.slots.trans ledger.slots
  history task := by rw [eventsOf_append, ledger.history, turn.history]
  orderly := turn.orderly ledger.orderly
  blamed := turn.blamed ledger.blamed
  blamesEarlier := turn.blamesEarlier ledger.orderly ledger.blamesEarlier
  kept := turn.kept ledger.kept
  closed := turn.closed ledger.closed
  returned crash? := by
    rw [turn.phase_eq, List.mem_append, ledger.returned, Option.mem_toList]

theorem Ledger.handIn (ledger : Ledger limit state events) (job : Job α)
    (accepting : state.phase = .accepting) (idle : state.Idle) :
    Ledger limit (state.handIn job) (events ++ [.submitted state.tasks.length job]) where
  slots := by
    have slots := ledger.slots
    simpa [State.held, State.handIn, Stage.slots] using slots
  history task := by
    rw [eventsOf_append, ledger.history task]
    unfold State.history
    rw [State.tell_handIn]
    by_cases last : task = state.tasks.length
    · have nothing : state.tell (fun entry => some (entry.history task)) task = none := by
        rw [State.tell, List.getElem?_eq_none (Nat.le_of_eq last.symm)]
        rfl
      rw [nothing, if_pos last]
      simp [last, eventsOf, Event.task?, Entry.history]
    · simp [last, Ne.symm last, eventsOf, Event.task?]
  orderly := by
    intro task entry found submits
    rw [State.getElem?_handIn] at found
    split at found
    · rename_i last
      exact ⟨by simp [State.handIn, last], accepting⟩
    · have none := idle entry (List.mem_of_getElem? found)
      simp [none] at submits
  blamed := ledger.blamed.congr (State.tell_handIn_of_none _ job rfl)
    (State.tell_handIn_of_none _ job rfl)
  blamesEarlier := by
    intro task crashed message blame
    rw [State.tell_handIn_of_none _ job rfl] at blame
    exact ledger.blamesEarlier task crashed message blame
  kept := by
    obtain ⟨found, none_left⟩ := ledger.kept
    constructor
    · rwa [State.tell_handIn_of_none _ job rfl]
    · rwa [State.tell_handIn_of_none _ job rfl]
  closed crash? returned := by
    have apart := accepting.symm.trans returned
    contradiction
  returned crash? := by
    rw [List.mem_append, ledger.returned]
    simp [State.handIn]

theorem Run.ledger (run : Run limit state events) : Ledger limit state events := by
  induction run with
  | start => exact .start
  | step prior step ih =>
    cases step with
    | submit job accepting idle => exact ih.handIn job accepting idle
    | turn turn => exact ih.turn turn

end

end Intake.Workers
