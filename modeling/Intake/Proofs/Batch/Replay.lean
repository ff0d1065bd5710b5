import Intake.Proofs.Batch.Progress
import Mathlib.Data.List.InsertIdx

/-!
# What the pool answers

`TaskPool` lets a submission go through at once, collects outcomes in the order in which tasks have
ended, and has no moment between the end of a task and its outcome. `TaskPool.replayable` says that
it still does what workers can do: whatever it is asked, and in whatever order its tasks end, its
answers, its slots in use, the values that it delivers and the crash that joining reports are those
of a run. Handing in tasks that are held (`serveAll_submitHeld`), or each after the end of the one
before (`exists_serveAll_submitEach`), is a list of such requests.
-/

namespace Intake

/-!
## Requests
-/

/-- What a pool is asked before it is joined: to take a task, or to let one of its running tasks
end. -/
inductive TaskPool.Request (α : Type) where
  | submit (job : Job α)
  | finish (index : Nat)

namespace TaskPool

variable {α : Type}

/-- Do what is asked; a submission has an answer. -/
def serve (pool : TaskPool α) : Request α → Option Submission × TaskPool α
  | .submit job => (some (pool.submit job).1, (pool.submit job).2)
  | .finish index =>
    match pool.running[index]? with
    | some job => (none, pool.finish job (pool.running.eraseIdx index))
    | none => (none, pool)

/-- Do all that is asked, one after the other. -/
def serveAll (pool : TaskPool α) : List (Request α) → List Submission × TaskPool α
  | [] => ([], pool)
  | request :: rest =>
    let (answer?, pool) := pool.serve request
    let (answers, last) := pool.serveAll rest
    (answer?.toList ++ answers, last)

/-- A pool that could be made is empty and has a slot at least. -/
theorem eq_of_create {slots : Nat} {pool : TaskPool α} (made : create slots = .ok pool) :
    pool = { limit := max slots 1 } := by
  unfold create at made
  split at made
  · exact (Except.ok.inj made).symm
  · contradiction

/-- A task that ends leaves its outcome, and its value if it delivers one. -/
theorem finish_eq (pool : TaskPool α) (job : Job α) (running : List (Job α)) :
    pool.finish job running =
      { pool with
        running := running
        ended := pool.ended ++ [job.crash?]
        delivered := pool.delivered ++ job.value?.toList } := by
  cases job with
  | deliver value => rfl
  | crash message => simp [finish, Job.crash?, Job.value?]

/-- A submission changes neither the number of slots nor what was delivered. -/
theorem submit_frame (pool : TaskPool α) (job : Job α) :
    (pool.submit job).2.limit = pool.limit ∧ (pool.submit job).2.delivered = pool.delivered := by
  unfold submit
  split
  · exact ⟨rfl, rfl⟩
  · split <;> exact ⟨rfl, rfl⟩

theorem serve_finish {pool : TaskPool α} {index : Nat} {job : Job α}
    (there : pool.running[index]? = some job) :
    pool.serve (.finish index) = (none, pool.finish job (pool.running.eraseIdx index)) := by
  simp [serve, there]

theorem serve_finish_none {pool : TaskPool α} {index : Nat} (absent : pool.running[index]? = none) :
    pool.serve (.finish index) = (none, pool) := by
  simp [serve, absent]

/-- Letting all tasks end is letting the first one end again and again. -/
theorem serveAll_finishAll (pool : TaskPool α) :
    pool.serveAll (List.replicate pool.running.length (.finish 0)) = ([], pool.finishAll) ∧
      pool.finishAll.running = [] := by
  unfold finishAll
  generalize shape : pool.running = tasks
  induction tasks generalizing pool with
  | nil => exact ⟨rfl, shape⟩
  | cons first rest ih =>
    have ends : pool.serve (.finish 0) = (none, pool.finish first rest) := by
      rw [serve, shape]
      rfl
    have dropped : pool.finish first (pool.running.drop 1) = pool.finish first rest := by
      rw [shape]
      rfl
    obtain ⟨served, empty⟩ := ih (pool.finish first rest) (by rw [finish_eq])
    rw [List.foldl_cons, dropped]
    refine ⟨?_, empty⟩
    rw [List.length_cons, List.replicate_succ, serveAll, ends]
    simp [served]

/-- The first crash among outcomes is that of the first, or else the first among the rest. -/
theorem collect_cons (outcome : Option String) (rest : List (Option String)) :
    (collect (outcome :: rest)).1 = outcome.or (collect rest).1 := by
  cases outcome <;> rfl

theorem serveAll_append (pool : TaskPool α) (requests more : List (Request α)) :
    pool.serveAll (requests ++ more) =
      ((pool.serveAll requests).1 ++ ((pool.serveAll requests).2.serveAll more).1,
        ((pool.serveAll requests).2.serveAll more).2) := by
  induction requests generalizing pool with
  | nil => rfl
  | cons request rest ih => simp [serveAll, ih]

/-- Tasks that are handed in while none of them ends are so many requests. -/
theorem serveAll_submitHeld (pool : TaskPool α) (tasks : List (Job α)) :
    pool.serveAll (tasks.map .submit) =
      ((pool.submitHeld tasks).1.map Prod.fst, (pool.submitHeld tasks).2) := by
  induction tasks generalizing pool with
  | nil => rfl
  | cons task rest ih => simp [serveAll, serve, submitHeld, ih]

/-- Tasks each of which ends before the next is handed in are so many requests. -/
theorem exists_serveAll_submitEach (pool : TaskPool α) (tasks : List (Job α)) :
    ∃ requests, pool.serveAll requests = pool.submitEach tasks := by
  induction tasks generalizing pool with
  | nil => exact ⟨[], rfl⟩
  | cons task rest ih =>
    obtain ⟨requests, served⟩ := ih (pool.finishAll.submit task).2
    refine ⟨List.replicate pool.running.length (.finish 0) ++ .submit task :: requests, ?_⟩
    rw [serveAll_append, pool.serveAll_finishAll.1]
    simp [serveAll, serve, submitEach, served]

end TaskPool

namespace Workers

variable {α : Type}

/-- The answer to a submission that an event shows. A submission that was given up found no slot. -/
def Event.answer? : Event α → Option Submission
  | accepted _ => some .accepted
  | refused _ _ message => some (.refused message)
  | abandoned _ => some .blocked
  | _ => none

/-- The value that is delivered by an event. -/
def Event.value? : Event α → Option α
  | finished _ job => job.value?
  | _ => none

/-!
## Several steps at once
-/

/-- Steps lead from one state to another, with these events. -/
def Leads (limit : Nat) (state : State α) (more : List (Event α)) (next : State α) : Prop :=
  ∀ events, Run limit state events → Run limit next (events ++ more)

namespace Leads

variable {limit : Nat} {state middle next : State α} {more later : List (Event α)}

theorem refl (limit : Nat) (state : State α) : Leads limit state [] state := by
  intro events run
  rwa [List.append_nil]

theorem trans (first : Leads limit state more middle) (second : Leads limit middle later next) :
    Leads limit state (more ++ later) next := by
  intro events run
  rw [← List.append_assoc]
  exact second _ (first events run)

theorem turn {event? : Option (Event α)} (turn : Turn state event? next) :
    Leads limit state event?.toList next :=
  fun _ run => run.step (.turn turn)

end Leads

/-- Moves of one task, one after the other. -/
inductive Moves (task : Nat) (job : Job α) :
    Nat → Stage → List (Event α) → Nat → Stage → Prop where
  | one {free stage event? after next} (move : Move task job free stage event? after next) :
      Moves task job free stage event?.toList after next
  | head {free stage event? between middle more after next}
      (first : Move task job free stage event? between middle)
      (rest : Moves task job between middle more after next) :
      Moves task job free stage (event?.toList ++ more) after next

theorem Leads.moves {limit : Nat} {state : State α} {task free after : Nat} {job : Job α}
    {stage next : Stage} {more : List (Event α)} (moves : Moves task job free stage more after next)
    (there : state.tasks[task]? = some ⟨job, stage⟩) (isFree : state.free = free) :
    Leads limit state more (state.move task job after next) := by
  induction moves generalizing state with
  | one move =>
    subst isFree
    exact .turn (.move there move)
  | @head free stage event? between middle more after next first rest ih =>
    subst isFree
    have still : (state.move task job between middle).tasks[task]? = some ⟨job, middle⟩ :=
      (State.getElem?_put there task).trans (if_pos rfl)
    have same : (state.move task job between middle).move task job after next =
        state.move task job after next := by
      simp [State.move, State.put]
    rw [← same]
    exact (Leads.turn (.move there first)).trans (ih still rfl)

/-!
## Which tasks are where
-/

/-- These tasks, and no others, are those of which something can be told, and this is what. -/
structure State.Lists {β : Type} (state : State α) (what : Entry α → Option β) (tasks : List Nat)
    (told : List β) : Prop where
  distinct : tasks.Nodup
  tells : tasks.map (state.tell what) = told.map some
  complete : ∀ task answer, state.tell what task = some answer → task ∈ tasks

namespace State.Lists

variable {β : Type} {state next : State α} {what : Entry α → Option β} {tasks : List Nat}
  {told : List β} {task index : Nat} {job : Job α} {stage : Stage}

theorem congr (lists : state.Lists what tasks told) (same : next.tell what = state.tell what) :
    next.Lists what tasks told where
  distinct := lists.distinct
  tells := same ▸ lists.tells
  complete := same ▸ lists.complete

/-- A task of which something can be told now comes last. -/
theorem add (lists : state.Lists what tasks told) (there : state.tasks[task]? = some ⟨job, stage⟩)
    (before : what ⟨job, stage⟩ = none) (after : Stage) {answer : β}
    (now : what ⟨job, after⟩ = some answer) :
    (state.put task job after).Lists what (tasks ++ [task]) (told ++ [answer]) := by
  have tell := tell_put what after there
  have outside : task ∉ tasks := by
    intro inside
    have listed := List.mem_map_of_mem (f := state.tell what) inside
    rw [lists.tells, tell_of_there there, before] at listed
    simp at listed
  refine ⟨?_, ?_, ?_⟩
  · refine List.nodup_append.2 ⟨lists.distinct, List.pairwise_singleton _ _, ?_⟩
    rintro one inside other single rfl
    exact outside (List.mem_singleton.1 single ▸ inside)
  · have others :
        tasks.map ((state.put task job after).tell what) = tasks.map (state.tell what) := by
      apply List.map_congr_left
      intro one inside
      rw [tell, if_neg]
      rintro rfl
      exact outside inside
    simp [others, lists.tells, tell, now]
  · intro one answer told
    rw [tell] at told
    split at told
    · rename_i here
      simp [here]
    · exact List.mem_append_left _ (lists.complete one answer told)

/-- A task of which nothing can be told any more is not listed. -/
theorem remove (lists : state.Lists what tasks told) (listed : tasks[index]? = some task)
    (there : state.tasks[task]? = some ⟨job, stage⟩) (after : Stage)
    (now : what ⟨job, after⟩ = none) :
    (state.put task job after).Lists what (tasks.eraseIdx index) (told.eraseIdx index) := by
  have tell := tell_put what after there
  refine ⟨lists.distinct.eraseIdx index, ?_, ?_⟩
  · have others : (tasks.eraseIdx index).map ((state.put task job after).tell what) =
        (tasks.eraseIdx index).map (state.tell what) := by
      apply List.map_congr_left
      intro one inside
      rw [tell, if_neg]
      rintro rfl
      obtain ⟨other, apart, found⟩ := List.mem_eraseIdx_iff_getElem?.1 inside
      have bound := (List.getElem?_eq_some_iff.1 found).1
      exact apart ((List.getElem?_inj bound lists.distinct).1 (found.trans listed.symm))
    rw [others, ← List.eraseIdx_map, lists.tells, List.eraseIdx_map]
  · intro one answer told
    rw [tell] at told
    split at told
    · simp [now] at told
    · rename_i apart
      obtain ⟨other, found⟩ := List.mem_iff_getElem?.1 (lists.complete one answer told)
      refine List.mem_eraseIdx_iff_getElem?.2 ⟨other, ?_, found⟩
      rintro rfl
      exact apart (Option.some.inj (found.symm.trans listed))

end State.Lists

/-- The job of a task that is queued. -/
def Entry.queued? (entry : Entry α) : Option (Job α) :=
  if entry.stage = .queued then some entry.job else none

/-- The outcome of a task that can be collected. -/
def Entry.outcome? (entry : Entry α) : Option (Option String) :=
  if entry.stage = .ended then some entry.job.crash? else none

/-- A pool has come to where the workers are between two requests, or while the submission of a task
is under way: its running tasks are those that are queued, and its outcomes those that can be
collected; with every other task all is done. -/
structure Tracks (running : List (Job α)) (outcomes : List (Option String)) (state : State α)
    (queue ended : List Nat) (busy : Option Nat) : Prop where
  running : state.Lists Entry.queued? queue running
  outcomes : state.Lists Entry.outcome? ended outcomes
  resting : ∀ task entry, state.tasks[task]? = some entry → some task ≠ busy →
    entry.stage = .queued ∨ entry.stage = .ended ∨ entry.stage.done = true

section

variable {limit : Nat} {state : State α} {running : List (Job α)} {outcomes : List (Option String)}
  {queue ended : List Nat} {busy : Option Nat} {task index : Nat} {job : Job α} {stage : Stage}

/-- The task at a place of the listing. -/
theorem State.Lists.exists_task {β : Type} {what : Entry α → Option β} {tasks : List Nat}
    {told : List β} (lists : state.Lists what tasks told) {answer : β}
    (there : told[index]? = some answer) :
    ∃ task entry, tasks[index]? = some task ∧ state.tasks[task]? = some entry ∧
      what entry = some answer := by
  have tells := congrArg (·[index]?) lists.tells
  simp only [List.getElem?_map, there, Option.map_some, Option.map_eq_some_iff] at tells
  obtain ⟨task, listed, told⟩ := tells
  obtain ⟨entry, found, is⟩ := there_of_tell told
  exact ⟨task, entry, listed, found, is⟩

theorem Entry.queued?_eq_some_iff {entry : Entry α} :
    entry.queued? = some job ↔ entry = ⟨job, .queued⟩ := by
  obtain ⟨other, stage⟩ := entry
  simp only [queued?, Option.ite_none_right_eq_some, Option.some.injEq, Entry.mk.injEq]
  exact and_comm

theorem Entry.outcome?_eq_some_iff {entry : Entry α} {outcome : Option String} :
    entry.outcome? = some outcome ↔ entry.stage = .ended ∧ entry.job.crash? = outcome := by
  simp [outcome?]

/-- A task that is neither queued nor to be collected may come to another such stage. -/
theorem Tracks.put (tracks : Tracks running outcomes state queue ended busy)
    (there : state.tasks[task]? = some ⟨job, stage⟩) (after : Stage)
    (queued : (stage = .queued ↔ after = .queued) ∧ (stage = .ended ↔ after = .ended))
    (rests : some task ≠ busy →
      after = .queued ∨ after = .ended ∨ after.done = true) :
    Tracks running outcomes (state.put task job after) queue ended busy where
  running := tracks.running.congr
    (State.tell_put_of_same _ after there (by simp [Entry.queued?, queued.1]))
  outcomes := tracks.outcomes.congr
    (State.tell_put_of_same _ after there (by simp [Entry.outcome?, queued.2]))
  resting := by
    intro one entry found apart
    rw [State.getElem?_put there] at found
    split at found
    · rename_i here
      obtain rfl := Option.some.inj found
      exact rests (here ▸ apart)
    · exact tracks.resting one entry found apart

/-- What is tracked are the tasks alone. -/
theorem Tracks.of_tasks (tracks : Tracks running outcomes state queue ended busy) {next : State α}
    (same : next.tasks = state.tasks) : Tracks running outcomes next queue ended busy := by
  have tell {β : Type} (what : Entry α → Option β) : next.tell what = state.tell what := by
    funext one
    rw [State.tell, State.tell, same]
  exact ⟨tracks.running.congr (tell _), tracks.outcomes.congr (tell _), same ▸ tracks.resting⟩

/-- A submission is over when its task is queued, or all is done with it. -/
theorem Tracks.rest (tracks : Tracks running outcomes state queue ended (some task))
    {entry : Entry α} (there : state.tasks[task]? = some entry)
    (rests : entry.stage = .queued ∨ entry.stage = .ended ∨ entry.stage.done = true) :
    Tracks running outcomes state queue ended none where
  running := tracks.running
  outcomes := tracks.outcomes
  resting := by
    intro one other found _
    by_cases here : one = task
    · obtain rfl := Option.some.inj (there.symm.trans (here ▸ found))
      exact rests
    · exact tracks.resting one other found (by simpa using here)

/-- A submission ends without its task. -/
theorem Tracks.close (tracks : Tracks running outcomes state queue ended (some task))
    (there : state.tasks[task]? = some ⟨job, stage⟩)
    (neither : stage ≠ .queued ∧ stage ≠ .ended) {after : Stage} (done : after.done = true) :
    Tracks running outcomes (state.put task job after) queue ended none := by
  have still : (state.put task job after).tasks[task]? = some ⟨job, after⟩ :=
    (State.getElem?_put there task).trans (if_pos rfl)
  refine (tracks.put there after ⟨?_, ?_⟩ fun apart => absurd rfl apart).rest still
    (.inr (.inr done))
  · exact iff_of_false neither.1 (by rintro rfl; cases done)
  · exact iff_of_false neither.2 (by rintro rfl; cases done)

/-- A submission ends with its task. -/
theorem Tracks.accept (tracks : Tracks running outcomes state queue ended (some task))
    (there : state.tasks[task]? = some ⟨job, .cleared⟩) :
    Tracks (running ++ [job]) outcomes (state.put task job .queued) (queue ++ [task]) ended none
    where
  running := tracks.running.add there rfl _ rfl
  outcomes := tracks.outcomes.congr (State.tell_put_of_same _ _ there rfl)
  resting := by
    intro one entry found _
    rw [State.getElem?_put there] at found
    split at found
    · obtain rfl := Option.some.inj found
      exact .inl rfl
    · rename_i apart
      exact tracks.resting one entry found (by simpa using apart)

theorem Tracks.handIn (tracks : Tracks running outcomes state queue ended none) (job : Job α) :
    Tracks running outcomes (state.handIn job) queue ended (some state.tasks.length) where
  running := tracks.running.congr (State.tell_handIn_of_none _ job rfl)
  outcomes := tracks.outcomes.congr (State.tell_handIn_of_none _ job rfl)
  resting := by
    intro one entry found apart
    rw [State.getElem?_handIn, if_neg (by simpa using apart)] at found
    exact tracks.resting one entry found nofun

/-- An outcome is collected. -/
theorem Tracks.settle (tracks : Tracks running outcomes state queue ended busy)
    (listed : ended[index]? = some task) (there : state.tasks[task]? = some ⟨job, .ended⟩)
    (submission? : Option Nat) :
    Tracks running (outcomes.eraseIdx index) (state.put task job (.settled submission?)) queue
      (ended.eraseIdx index) busy where
  running := tracks.running.congr (State.tell_put_of_same _ _ there rfl)
  outcomes := tracks.outcomes.remove listed there _ rfl
  resting := by
    intro one entry found apart
    rw [State.getElem?_put there] at found
    split at found
    · obtain rfl := Option.some.inj found
      exact .inr (.inr rfl)
    · exact tracks.resting one entry found apart

theorem Tracks.idle (tracks : Tracks running outcomes state queue ended none) : state.Idle := by
  intro entry inside
  obtain ⟨task, found⟩ := List.mem_iff_getElem?.1 inside
  rcases tracks.resting task entry found nofun with queued | collectable | done
  · rw [queued]
    rfl
  · rw [collectable]
    rfl
  · cases stage : entry.stage <;> first | rfl | simp [stage, Stage.done] at done

/-- The job of a task whose outcome can be collected. -/
theorem Tracks.exists_ended (tracks : Tracks running outcomes state queue ended busy) (index : Nat)
    {outcome : Option String} (there : outcomes[index]? = some outcome) :
    ∃ task job, ended[index]? = some task ∧ state.tasks[task]? = some ⟨job, .ended⟩ ∧
      job.crash? = outcome := by
  obtain ⟨task, ⟨job, stage⟩, listed, found, told⟩ := tracks.outcomes.exists_task there
  obtain ⟨rfl, crash⟩ := Entry.outcome?_eq_some_iff.1 told
  exact ⟨task, job, listed, found, crash⟩

/-- Where no outcome is listed, none can be collected. -/
theorem Tracks.none_ended (tracks : Tracks running [] state queue ended busy) :
    ∀ entry ∈ state.tasks, entry.stage ≠ .ended := by
  intro entry inside isEnded
  obtain ⟨task, found⟩ := List.mem_iff_getElem?.1 inside
  have told : state.tell Entry.outcome? task = some entry.job.crash? := by
    rw [State.tell_of_there found, Entry.outcome?, if_pos isEnded]
  have listed := tracks.outcomes.complete task _ told
  have empty : ended = [] := by simpa using tracks.outcomes.tells
  simp [empty] at listed

/-!
## One request
-/

/-- A task ends. -/
theorem Tracks.finish (tracks : Tracks running outcomes state queue ended none) (limit : Nat)
    (there : running[index]? = some job) :
    ∃ task next, Leads limit state [.started task, .finished task job] next ∧
      next.free = state.free + 1 ∧ next.phase = state.phase ∧
      Tracks (running.eraseIdx index) (outcomes ++ [job.crash?]) next (queue.eraseIdx index)
        (ended ++ [task]) none := by
  obtain ⟨task, entry, listed, found, told⟩ := tracks.running.exists_task there
  obtain rfl := Entry.queued?_eq_some_iff.1 told
  have moves : Moves task job state.free .queued [.started task, .finished task job]
      (state.free + 1) .ended := .head .start (.head .finish (.head .release (.one .announce)))
  have put : Tracks (running.eraseIdx index) (outcomes ++ [job.crash?]) (state.put task job .ended)
      (queue.eraseIdx index) (ended ++ [task]) none := by
    refine ⟨tracks.running.remove listed found _ rfl, tracks.outcomes.add found rfl _ rfl, ?_⟩
    intro one entry other _
    rw [State.getElem?_put found] at other
    split at other
    · obtain rfl := Option.some.inj other
      exact .inr (.inl rfl)
    · exact tracks.resting one entry other nofun
  exact ⟨task, _, .moves moves found rfl, rfl, rfl, put.of_tasks rfl⟩

/-- A submission collects outcomes up to the first crash. -/
theorem Tracks.collect (tracks : Tracks running outcomes state queue ended (some task))
    (limit : Nat) (there : state.tasks[task]? = some ⟨job, .collecting⟩) :
    ∃ next left stage, Leads limit state [] next ∧ next.free = state.free ∧
      next.phase = state.phase ∧ next.tasks[task]? = some ⟨job, stage⟩ ∧
      Tracks running (TaskPool.collect outcomes).2 next queue left (some task) ∧
      match (TaskPool.collect outcomes).1 with
      | none => stage = .cleared
      | some message => ∃ crashed, stage = .refusing crashed message := by
  induction outcomes generalizing state ended with
  | nil =>
    refine ⟨_, ended, .cleared, .turn (.clear there tracks.none_ended), rfl, rfl, ?_, ?_, rfl⟩
    · rw [State.getElem?_put there, if_pos rfl]
    · exact tracks.put there .cleared (by simp) fun apart => absurd rfl apart
  | cons outcome rest ih =>
    obtain ⟨other, otherJob, listed, found, crash⟩ := tracks.exists_ended 0 rfl
    have settled := tracks.settle listed found (some task)
    have still := State.there_of_settled (.settled (some task)) there found
    cases otherJob with
    | deliver value =>
      obtain rfl : none = outcome := crash
      obtain ⟨next, left, stage, leads, free, phase, result⟩ := ih settled still
      have collected := (Leads.turn (.collect there found)).trans leads
      exact ⟨next, left, stage, collected, free, phase, result⟩
    | crash message =>
      obtain rfl : some message = outcome := crash
      refine ⟨_, ended.eraseIdx 0, .refusing other message, .turn (.blame there found), rfl, rfl,
        ?_, ?_, other, rfl⟩
      · rw [State.getElem?_put still, if_pos rfl]
      · exact settled.put still _ (by simp) fun apart => absurd rfl apart

end

/-- A pool has come to where the workers are between two requests. -/
structure Matches (pool : TaskPool α) (state : State α) : Prop where
  accepting : state.phase = .accepting
  slots : state.free + pool.running.length = pool.limit
  tracks : ∃ queue ended, Tracks pool.running pool.ended state queue ended none

section

variable {pool : TaskPool α} {state : State α}

theorem Leads.handIn (limit : Nat) (job : Job α) (accepting : state.phase = .accepting)
    (idle : state.Idle) :
    Leads limit state [.submitted state.tasks.length job] (state.handIn job) :=
  fun _ run => run.step (.submit job accepting idle)

/-- Where the pool blocks a submission, the workers may let it be given up. -/
theorem Matches.block (agree : Matches pool state) (job : Job α) :
    ∃ next, Leads pool.limit state
        [.submitted state.tasks.length job, .abandoned state.tasks.length] next ∧
      Matches pool next := by
  obtain ⟨accepting, slots, queue, ended, tracks⟩ := agree
  have there : (state.handIn job).tasks[state.tasks.length]? = some ⟨job, .waiting⟩ :=
    (State.getElem?_handIn job _).trans (if_pos rfl)
  have closed : Tracks pool.running pool.ended
      ((state.handIn job).put state.tasks.length job .abandoned) queue ended none :=
    (tracks.handIn job).close there ⟨nofun, nofun⟩ rfl
  exact ⟨_, (Leads.handIn _ job accepting tracks.idle).trans (.turn (.move there .abandon)),
    accepting, slots, queue, ended, closed.of_tasks rfl⟩

/-- Where the pool has a free slot, the workers let a submission collect outcomes as it does. -/
theorem Matches.collect (agree : Matches pool state) (job : Job α)
    (free : pool.running.length < pool.limit) :
    ∃ next queue left stage,
      Leads pool.limit state [.submitted state.tasks.length job] next ∧
      next.phase = .accepting ∧ next.free + 1 + pool.running.length = pool.limit ∧
      next.tasks[state.tasks.length]? = some ⟨job, stage⟩ ∧
      Tracks pool.running (TaskPool.collect pool.ended).2 next queue left
        (some state.tasks.length) ∧
      match (TaskPool.collect pool.ended).1 with
      | none => stage = .cleared
      | some message => ∃ crashed, stage = .refusing crashed message := by
  obtain ⟨accepting, slots, queue, ended, tracks⟩ := agree
  obtain ⟨others, isFree⟩ : ∃ others, state.free = others + 1 := ⟨state.free - 1, by omega⟩
  have there : (state.handIn job).tasks[state.tasks.length]? = some ⟨job, .waiting⟩ :=
    (State.getElem?_handIn job _).trans (if_pos rfl)
  have moves : Moves (α := α) state.tasks.length job (others + 1) .waiting [] others .collecting :=
    .head .grant (.one .resume)
  have granted : Tracks pool.running pool.ended
      ((state.handIn job).move state.tasks.length job others .collecting) queue ended
      (some state.tasks.length) :=
    ((tracks.handIn job).put there .collecting (by simp) fun apart => absurd rfl apart).of_tasks rfl
  obtain ⟨next, left, stage, leads, sameFree, samePhase, result⟩ := granted.collect pool.limit
    ((State.getElem?_put there _).trans (if_pos rfl))
  refine ⟨next, queue, left, stage, ?_, samePhase.trans accepting, ?_, result⟩
  · exact (Leads.handIn _ job accepting tracks.idle).trans
      ((Leads.moves moves there isFree).trans leads)
  · have now : next.free = others := sameFree
    omega

/-- The workers can answer a submission as the pool does. -/
theorem Matches.submit (agree : Matches pool state) (job : Job α) :
    ∃ more next, Leads pool.limit state more next ∧ Matches (pool.submit job).2 next ∧
      more.filterMap Event.answer? = [(pool.submit job).1] ∧
      more.filterMap Event.value? = [] := by
  by_cases full : pool.limit ≤ pool.inFlight
  · obtain ⟨next, leads, agrees⟩ := agree.block job
    rw [TaskPool.submit, if_pos full]
    exact ⟨_, next, leads, agrees, rfl, rfl⟩
  · obtain ⟨next, queue, left, stage, leads, accepting, slots, there, tracks, found⟩ :=
      agree.collect job (Nat.lt_of_not_le full)
    rw [TaskPool.submit, if_neg full]
    cases collected : TaskPool.collect pool.ended with
    | mk crash? rest =>
      simp only [collected] at tracks found
      cases crash? with
      | none =>
        obtain rfl := found
        refine ⟨_, _, leads.trans (.turn (.move there .accept)), ⟨accepting, ?_, _, _,
          (tracks.accept there).of_tasks rfl⟩, rfl, rfl⟩
        change next.free + (pool.running ++ [job]).length = pool.limit
        rw [List.length_append, List.length_singleton]
        omega
      | some message =>
        obtain ⟨crashed, rfl⟩ := found
        refine ⟨_, _, leads.trans (.turn (.move there .refuse)), ⟨accepting, slots, _, _,
          (tracks.close there ⟨nofun, nofun⟩ rfl).of_tasks rfl⟩, rfl, rfl⟩

/-- The workers can do what the pool is asked as it does. -/
theorem Matches.serve (agree : Matches pool state) (request : TaskPool.Request α) :
    ∃ more next, Leads pool.limit state more next ∧ Matches (pool.serve request).2 next ∧
      (pool.serve request).2.limit = pool.limit ∧
      more.filterMap Event.answer? = (pool.serve request).1.toList ∧
      (pool.serve request).2.delivered = pool.delivered ++ more.filterMap Event.value? := by
  cases request with
  | submit job =>
    obtain ⟨more, next, leads, agrees, answers, values⟩ := agree.submit job
    obtain ⟨limit, delivered⟩ := pool.submit_frame job
    refine ⟨more, next, leads, agrees, limit, answers, ?_⟩
    rw [values, List.append_nil]
    exact delivered
  | finish index =>
    cases there : pool.running[index]? with
    | none =>
      rw [TaskPool.serve_finish_none there]
      exact ⟨[], state, .refl _ _, agree, rfl, rfl, (List.append_nil _).symm⟩
    | some job =>
      obtain ⟨accepting, slots, queue, ended, tracks⟩ := agree
      obtain ⟨task, next, leads, free, phase, tracked⟩ := tracks.finish pool.limit there
      have inside := (List.getElem?_eq_some_iff.1 there).1
      rw [TaskPool.serve_finish there, TaskPool.finish_eq]
      refine ⟨_, next, leads, ⟨phase.trans accepting, ?_, _, _, tracked⟩, rfl, rfl, ?_⟩
      · rw [List.length_eraseIdx_of_lt inside]
        change next.free + (pool.running.length - 1) = pool.limit
        omega
      · cases job <;> rfl

/-- The workers can do all that the pool is asked as it does. -/
theorem Matches.serveAll (agree : Matches pool state) (requests : List (TaskPool.Request α)) :
    ∃ more next, Leads pool.limit state more next ∧ Matches (pool.serveAll requests).2 next ∧
      (pool.serveAll requests).2.limit = pool.limit ∧
      more.filterMap Event.answer? = (pool.serveAll requests).1 ∧
      (pool.serveAll requests).2.delivered = pool.delivered ++ more.filterMap Event.value? := by
  induction requests generalizing pool state with
  | nil => exact ⟨[], state, .refl _ _, agree, rfl, rfl, (List.append_nil _).symm⟩
  | cons request rest ih =>
    obtain ⟨first, middle, leads, agrees, limit, answer, values⟩ := agree.serve request
    obtain ⟨more, next, later, last, sameLimit, answers, others⟩ := ih agrees
    rw [limit] at later sameLimit
    refine ⟨first ++ more, next, leads.trans later, last, sameLimit, ?_, ?_⟩
    · rw [List.filterMap_append, answer, answers]
      rfl
    · rw [List.filterMap_append, ← List.append_assoc, ← values]
      exact others

/-- Joining collects the outcomes that are left and keeps the first crash. -/
theorem Tracks.join {outcomes : List (Option String)} {ended : List Nat} {crash? : Option String}
    (tracks : Tracks [] outcomes state [] ended none) (limit : Nat)
    (joining : state.phase = .joining crash?) :
    ∃ final, Leads limit state [.returned (crash?.or (TaskPool.collect outcomes).1)] final ∧
      final.phase = .returned (crash?.or (TaskPool.collect outcomes).1) := by
  induction outcomes generalizing state ended crash? with
  | nil =>
    have done : ∀ entry ∈ state.tasks, entry.stage.done = true := by
      intro entry inside
      obtain ⟨task, found⟩ := List.mem_iff_getElem?.1 inside
      rcases tracks.resting task entry found nofun with queued | collectable | done
      · have told : state.tell Entry.queued? task = some entry.job := by
          rw [State.tell_of_there found, Entry.queued?, if_pos queued]
        exact absurd (tracks.running.complete task _ told) List.not_mem_nil
      · exact absurd collectable (tracks.none_ended entry inside)
      · exact done
    rw [show (TaskPool.collect []).1 = none from rfl, Option.or_none]
    exact ⟨_, .turn (.finish joining done), rfl⟩
  | cons outcome rest ih =>
    obtain ⟨other, job, listed, found, rfl⟩ := tracks.exists_ended 0 rfl
    have settled := tracks.settle listed found none
    have gathered : Tracks [] rest { state.put other job (.settled none) with
        phase := .joining (crash?.or job.crash?) } [] (ended.eraseIdx 0) none :=
      settled.of_tasks rfl
    obtain ⟨final, leads, returned⟩ := ih gathered rfl
    rw [TaskPool.collect_cons, ← Option.or_assoc]
    exact ⟨final, (Leads.turn (.gather joining found)).trans leads, returned⟩

/-- The workers can be joined as the pool is. -/
theorem Matches.join (agree : Matches pool state) :
    ∃ more final, Leads pool.limit state more final ∧ final.phase = .returned pool.join.1 ∧
      pool.join.2 = pool.delivered ++ more.filterMap Event.value? := by
  obtain ⟨ends, empty⟩ := pool.serveAll_finishAll
  obtain ⟨more, next, leads, agrees, limit, -, values⟩ :=
    agree.serveAll (List.replicate pool.running.length (.finish 0))
  rw [ends] at agrees limit values
  obtain ⟨accepting, slots, queue, ended, tracks⟩ := agrees
  have none_queued : queue = [] := by
    have tells := tracks.running.tells
    rw [empty] at tells
    simpa using tells
  have begun : Tracks [] pool.finishAll.ended { next with phase := .joining none } [] ended none :=
    (none_queued ▸ empty ▸ tracks).of_tasks rfl
  obtain ⟨final, gathers, returned⟩ := begun.join pool.limit rfl
  refine ⟨_, final, leads.trans ((Leads.turn (.join accepting tracks.idle)).trans gathers),
    returned, ?_⟩
  rw [List.filterMap_append]
  exact values.trans (congrArg _ (List.append_nil _).symm)

end

end Workers

/-- Workers can do what a pool does with as many slots, when it is asked to take tasks and to let
tasks end, and then is joined. There is a run whose events show the same answers to submissions, and
in which as many slots are in use; and it goes on until joining returns the same crash, or none, and
the same values were delivered in the same order. -/
def TaskPool.Replayable {α : Type} (pool : TaskPool α) (requests : List (Request α)) : Prop :=
  ∃ state events, Workers.Run pool.limit state events ∧
    events.filterMap Workers.Event.answer? = (pool.serveAll requests).1 ∧
    state.inFlight pool.limit = (pool.serveAll requests).2.inFlight ∧
    ∃ final more, Workers.Run pool.limit final (events ++ more) ∧
      .returned (pool.serveAll requests).2.join.1 ∈ events ++ more ∧
      (events ++ more).filterMap Workers.Event.value? = (pool.serveAll requests).2.join.2

/-- Whatever a pool is asked, and in whatever order its tasks end, workers can do what it does. -/
theorem TaskPool.replayable {α : Type} {slots : Nat} {pool : TaskPool α}
    (made : TaskPool.create slots = .ok pool) (requests : List (Request α)) :
    pool.Replayable requests := by
  have empty : pool.running = [] ∧ pool.ended = [] ∧ pool.delivered = [] := by
    rw [eq_of_create made]
    exact ⟨rfl, rfl, rfl⟩
  have fresh : Workers.Matches pool { free := pool.limit } := by
    have nothing {β : Type} (what : Workers.Entry α → Option β) :
        Workers.State.Lists { free := pool.limit } what [] [] := ⟨.nil, rfl, nofun⟩
    exact ⟨rfl, by simp [empty.1], [], [], empty.1 ▸ nothing _, empty.2.1 ▸ nothing _, nofun⟩
  obtain ⟨events, state, leads, agree, limit, answers, values⟩ := fresh.serveAll requests
  obtain ⟨more, final, joins, returned, all⟩ := agree.join
  have run : Workers.Run pool.limit state events := leads [] .start
  rw [limit] at joins
  have ends := joins events run
  refine ⟨state, events, run, answers, ?_, final, more, ends,
    (ends.ledger.returned _).2 returned, ?_⟩
  · have held := agree.slots
    rw [limit] at held
    unfold Workers.State.inFlight inFlight
    omega
  · rw [List.filterMap_append, all, values, empty.2.2, List.nil_append]

end Intake
