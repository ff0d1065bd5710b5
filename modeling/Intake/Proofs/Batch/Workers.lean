import Intake.Batch.Pool
import Mathlib.Algebra.GroupWithZero.Nat

/-!
# A pool of workers, step by step

A submission waits for a slot, collects what earlier tasks have left, and then lets its task take
over the slot, or is refused and gives the slot back; while it waits it may be given up. A task
runs, comes to its end or crashes, gives its slot back, and a little later its outcome can be
collected. Joining collects the outcomes that are left. `Run` relates a number of slots to every
state that some order of such steps leads to, with the events on the way. The relation, rather than
a scheduler, is authoritative; outcomes may be collected in any order.

One submission is under way at a time, since it has the pool to itself, and joining is the last that
is asked of a pool.
-/

namespace Intake

/-- The message of a crash, if the task crashes. -/
def Job.crash? {α : Type} : Job α → Option String
  | deliver _ => none
  | crash message => some message

/-- The value of a task, if it delivers one. -/
def Job.value? {α : Type} : Job α → Option α
  | deliver value => some value
  | crash _ => none

namespace Workers

/-- How far a task that was handed in has come. -/
inductive Stage where
  /-- Its submission waits for a slot. -/
  | waiting
  /-- A slot is set aside for its submission, which does not know of it yet. -/
  | granted
  /-- Its submission has a slot and collects the outcomes of earlier tasks. -/
  | collecting
  /-- Its submission has found nothing more to collect. -/
  | cleared
  /-- Its submission has collected the crash of an earlier task. -/
  | refusing (crashed : Nat) (message : String)
  /-- Its submission was refused with that crash. -/
  | refused (crashed : Nat) (message : String)
  /-- Its submission was given up. -/
  | abandoned
  /-- It is accepted and has a slot to run in. -/
  | queued
  | running
  /-- It has delivered its value or has crashed, and still has its slot. -/
  | stopped
  /-- It has given its slot back, and its outcome cannot be collected yet. -/
  | leaving
  /-- Its outcome can be collected. -/
  | ended
  /-- Its outcome was collected by a later submission, or by joining. -/
  | settled (submission? : Option Nat)
  deriving DecidableEq

namespace Stage

/-- The submission of the task is under way. -/
def submitting : Stage → Bool
  | waiting | granted | collecting | cleared | refusing _ _ => true
  | _ => false

/-- Nothing more will happen to the task. -/
def done : Stage → Bool
  | refused _ _ | abandoned | settled _ => true
  | _ => false

/-- The slots that the task has, itself or through its submission. -/
def slots : Stage → Nat
  | granted | collecting | cleared | refusing _ _ | queued | running | stopped => 1
  | _ => 0

end Stage

/-- A task that was handed in. -/
structure Entry (α : Type) where
  job : Job α
  stage : Stage

/-- What is asked of the pool as a whole. -/
inductive Phase where
  /-- Tasks are handed in. -/
  | accepting
  /-- The pool is joined; so far this crash was the first to be collected. -/
  | joining (crash? : Option String)
  /-- Joining has returned. -/
  | returned (crash? : Option String)

namespace Phase

/-- The crash that joining has found. -/
def crash? : Phase → Option String
  | accepting => none
  | joining crash? | returned crash? => crash?

end Phase

/-- A pool of workers: the slots that are free, and the tasks that were handed in, in their
order. -/
structure State (α : Type) where
  free : Nat
  tasks : List (Entry α) := []
  phase : Phase := .accepting

namespace State

variable {α : Type}

/-- The number of slots in use, as the slots that are not free. -/
def inFlight (limit : Nat) (state : State α) : Nat := limit - state.free

/-- The number of tasks that run. -/
def running (state : State α) : Nat := state.tasks.countP fun entry => entry.stage = .running

/-- No submission is under way. -/
def Idle (state : State α) : Prop := ∀ entry ∈ state.tasks, entry.stage.submitting = false

/-- The state after a task has come to another stage. -/
def put (state : State α) (task : Nat) (job : Job α) (stage : Stage) : State α :=
  { state with tasks := state.tasks.set task ⟨job, stage⟩ }

/-- The state after a task has come to another stage and slots were taken or given back. -/
def move (state : State α) (task : Nat) (job : Job α) (free : Nat) (stage : Stage) : State α :=
  { state.put task job stage with free := free }

/-- The state after a task was handed in. -/
def handIn (state : State α) (job : Job α) : State α :=
  { state with tasks := state.tasks ++ [⟨job, .waiting⟩] }

end State

section

variable {α : Type} {state : State α} {task : Nat} {job : Job α} {stage : Stage}

@[simp] theorem State.free_put : (state.put task job stage).free = state.free := rfl

@[simp] theorem State.phase_put : (state.put task job stage).phase = state.phase := rfl

@[simp] theorem State.phase_move {free : Nat} :
    (state.move task job free stage).phase = state.phase := rfl

@[simp] theorem State.length_put : (state.put task job stage).tasks.length = state.tasks.length :=
  List.length_set

/-- The task that is handed in is the last one. -/
theorem State.getElem?_handIn (job : Job α) (other : Nat) :
    (state.handIn job).tasks[other]? =
      if other = state.tasks.length then some ⟨job, .waiting⟩ else state.tasks[other]? := by
  unfold handIn
  split
  · rename_i last
    rw [last, List.getElem?_concat_length]
  · rename_i other
    rcases Nat.lt_or_gt_of_ne other with before | after
    · rw [List.getElem?_append_left before]
    · rw [List.getElem?_eq_none (by simp; omega), List.getElem?_eq_none (by omega)]

/-- Only the task itself comes to another stage. -/
theorem State.getElem?_put {entry : Entry α} (there : state.tasks[task]? = some entry)
    (other : Nat) :
    (state.put task job stage).tasks[other]? =
      if other = task then some ⟨job, stage⟩ else state.tasks[other]? := by
  have inside : task < state.tasks.length := (List.getElem?_eq_some_iff.1 there).1
  by_cases same : other = task
  · subst same
    simp [put, inside]
  · simp [put, same, Ne.symm same]

/-- A task comes to another stage, and a total over all tasks changes by its own part. -/
theorem State.sum_put (part : Entry α → Nat) (next : Stage)
    (there : state.tasks[task]? = some ⟨job, stage⟩) :
    ((state.put task job next).tasks.map part).sum + part ⟨job, stage⟩ =
      (state.tasks.map part).sum + part ⟨job, next⟩ := by
  obtain ⟨free, tasks, phase⟩ := state
  simp only [put] at there ⊢
  induction tasks generalizing task with
  | nil => simp at there
  | cons entry rest ih =>
    cases task with
    | zero =>
      obtain rfl : entry = ⟨job, stage⟩ := by simpa using there
      simp only [List.set_cons_zero, List.map_cons, List.sum_cons]
      omega
    | succ task =>
      have later := ih (by simpa using there)
      simp only [List.set_cons_succ, List.map_cons, List.sum_cons]
      omega

end

/-- What can be seen of a pool. Tasks are numbered in the order in which they are handed in. -/
inductive Event (α : Type) where
  | submitted (task : Nat) (job : Job α)
  | abandoned (task : Nat)
  /-- A submission is answered with the crash of an earlier task. -/
  | refused (task crashed : Nat) (message : String)
  | accepted (task : Nat)
  | started (task : Nat)
  | finished (task : Nat) (job : Job α)
  /-- Joining has returned, with a crash or without. -/
  | returned (crash? : Option String)

variable {α : Type}

/-- One step of a task that leaves all others alone, with the free slots before and after. A
submission that was given up gives back a slot that was set aside for it, and so does one that is
refused. -/
inductive Move (task : Nat) (job : Job α) :
    Nat → Stage → Option (Event α) → Nat → Stage → Prop where
  | grant {free} : Move task job (free + 1) .waiting none free .granted
  | resume {free} : Move task job free .granted none free .collecting
  | abandon {free} : Move task job free .waiting (some (.abandoned task)) free .abandoned
  | withdraw {free} : Move task job free .granted (some (.abandoned task)) (free + 1) .abandoned
  | refuse {free crashed message} :
      Move task job free (.refusing crashed message) (some (.refused task crashed message))
        (free + 1) (.refused crashed message)
  | accept {free} : Move task job free .cleared (some (.accepted task)) free .queued
  | start {free} : Move task job free .queued (some (.started task)) free .running
  | finish {free} : Move task job free .running (some (.finished task job)) free .stopped
  | release {free} : Move task job free .stopped none (free + 1) .leaving
  | announce {free} : Move task job free .leaving none free .ended

/-- One step of a pool to which no task is handed in. -/
inductive Turn : State α → Option (Event α) → State α → Prop where
  | move {state task job stage event? free next}
      (there : state.tasks[task]? = some ⟨job, stage⟩)
      (moves : Move task job state.free stage event? free next) :
      Turn state event? (state.move task job free next)
  /-- A submission collects the outcome of a task that has not crashed. -/
  | collect {state task job other value} (there : state.tasks[task]? = some ⟨job, .collecting⟩)
      (ended : state.tasks[other]? = some ⟨.deliver value, .ended⟩) :
      Turn state none (state.put other (.deliver value) (.settled (some task)))
  /-- A submission collects a crash. -/
  | blame {state task job other message} (there : state.tasks[task]? = some ⟨job, .collecting⟩)
      (ended : state.tasks[other]? = some ⟨.crash message, .ended⟩) :
      Turn state none
        ((state.put other (.crash message) (.settled (some task))).put task job
          (.refusing other message))
  /-- A submission finds nothing to collect. -/
  | clear {state task job} (there : state.tasks[task]? = some ⟨job, .collecting⟩)
      (none_ended : ∀ entry ∈ state.tasks, entry.stage ≠ .ended) :
      Turn state none (state.put task job .cleared)
  /-- The pool is joined. -/
  | join {state} (accepting : state.phase = .accepting) (idle : state.Idle) :
      Turn state none { state with phase := .joining none }
  /-- Joining collects an outcome; the first crash is kept. -/
  | gather {state crash? other job} (joining : state.phase = .joining crash?)
      (ended : state.tasks[other]? = some ⟨job, .ended⟩) :
      Turn state none
        { state.put other job (.settled none) with phase := .joining (crash?.or job.crash?) }
  /-- Joining returns when no task is left. -/
  | finish {state crash?} (joining : state.phase = .joining crash?)
      (done : ∀ entry ∈ state.tasks, entry.stage.done = true) :
      Turn state (some (.returned crash?)) { state with phase := .returned crash? }

/-- One step of a pool. -/
inductive Step : State α → Option (Event α) → State α → Prop where
  /-- A task is handed in. -/
  | submit {state} (job : Job α) (accepting : state.phase = .accepting) (idle : state.Idle) :
      Step state (some (.submitted state.tasks.length job)) (state.handIn job)
  | turn {state event? next} (turn : Turn state event? next) : Step state event? next

/-- The states that steps in any order lead to, with the events in order. -/
inductive Run (limit : Nat) : State α → List (Event α) → Prop where
  | start : Run limit { free := limit } []
  | step {state next events event?} (prior : Run limit state events)
      (step : Step state event? next) : Run limit next (events ++ event?.toList)

end Workers

end Intake
