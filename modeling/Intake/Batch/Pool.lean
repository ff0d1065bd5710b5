import Intake.Failure
import Intake.Record.Basic
import Intake.Text.Visible

/-!
# A bounded pool of tasks

At most `limit` tasks hold a slot at once. A task that ends gives its slot back and leaves its
outcome to be collected: the next submission collects what has ended and is refused with the first
crash it finds; joining waits for all tasks and reports the first crash that was left.
-/

namespace Intake

/-- What a task does: it delivers a value, or it crashes with a message. -/
inductive Job (α : Type) where
  | deliver (value : α)
  | crash (message : String)
  deriving DecidableEq, Repr

/-- The failure that reports a crash. The number of the task is left open. -/
def crashFailure (message : String) : Failure :=
  .batch ("worker task panicked: task N panicked with message " ++ quotedVisibly message)

/-- A pool: the tasks that hold a slot, the outcomes not yet collected, oldest first, and the values
delivered. -/
structure TaskPool (α : Type) where
  /-- The number of slots. -/
  limit : Nat
  running : List (Job α) := []
  /-- The outcomes of ended tasks: the message of a crash, or nothing. -/
  ended : List (Option String) := []
  delivered : List α := []

/-- The answer to a submission. -/
inductive Submission where
  | accepted
  /-- An earlier task has crashed; the task will not run. -/
  | refused (message : String)
  /-- There is no free slot. -/
  | blocked
  deriving DecidableEq, Repr

namespace TaskPool

variable {α : Type}

/-- The greatest number of slots that can be counted. -/
def greatestLimit : Nat := 0x1FFFFFFFFFFFFFFF

/-- A pool with a number of slots, at least one. -/
def create (slots : Nat) : Except Misuse (TaskPool α) :=
  if slots ≤ greatestLimit then .ok { limit := max slots 1 } else .error .tooManyWorkers

/-- The number of slots in use. -/
def inFlight (pool : TaskPool α) : Nat := pool.running.length

/-- Collect outcomes up to the first crash: its message, and the outcomes that are left. -/
def collect : List (Option String) → Option String × List (Option String)
  | [] => (none, [])
  | none :: rest => collect rest
  | some message :: rest => (some message, rest)

/-- Hand in a task. -/
def submit (pool : TaskPool α) (task : Job α) : Submission × TaskPool α :=
  if pool.limit ≤ pool.inFlight then (.blocked, pool)
  else
    match collect pool.ended with
    | (some message, ended) => (.refused message, { pool with ended := ended })
    | (none, ended) =>
      (.accepted, { pool with running := pool.running ++ [task], ended := ended })

/-- A task ends: its value is delivered, or its crash is left to be collected. -/
def finish (pool : TaskPool α) (task : Job α) (running : List (Job α)) : TaskPool α :=
  match task with
  | .deliver value =>
    { pool with
      running := running
      ended := pool.ended ++ [none]
      delivered := pool.delivered ++ [value] }
  | .crash message => { pool with running := running, ended := pool.ended ++ [some message] }

/-- Let all running tasks end, the oldest first. -/
def finishAll (pool : TaskPool α) : TaskPool α :=
  pool.running.foldl (fun pool task => pool.finish task (pool.running.drop 1)) pool

/-- Wait for all tasks: the first crash left, if any, and the values delivered. -/
def join (pool : TaskPool α) : Option String × List α :=
  let pool := pool.finishAll
  ((collect pool.ended).1, pool.delivered)

/-- Hand in tasks while none of them ends: the answers with the slots in use after each. -/
def submitHeld : TaskPool α → List (Job α) → List (Submission × Nat) × TaskPool α
  | pool, [] => ([], pool)
  | pool, task :: rest =>
    let (answer, pool) := pool.submit task
    let (answers, last) := submitHeld pool rest
    ((answer, pool.inFlight) :: answers, last)

/-- Hand in tasks each of which ends before the next is handed in, except for the last. -/
def submitEach : TaskPool α → List (Job α) → List Submission × TaskPool α
  | pool, [] => ([], pool)
  | pool, task :: rest =>
    let (answer, pool) := pool.finishAll.submit task
    let (answers, last) := submitEach pool rest
    (answer :: answers, last)

end TaskPool

end Intake
