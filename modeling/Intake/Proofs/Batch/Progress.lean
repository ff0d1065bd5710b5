import Intake.Proofs.Batch.Accounts

/-!
# A pool of workers comes to its end

Whatever the order of its steps, a pool that was not joined can go on without giving up a submission
(`Ledger.exists_turn`), and not for ever without another one (`wellFounded_turn`). So every pool can
be joined (`Run.exists_returned`): no task and no submission waits for something that never comes.
-/

namespace Intake.Workers

variable {α : Type} {limit : Nat} {state next : State α} {event? : Option (Event α)}
  {events : List (Event α)}

/-- More than the turns that a task has left. -/
def Stage.weight : Stage → Nat
  | waiting => 10
  | granted => 9
  | collecting => 8
  | cleared => 7
  | queued => 6
  | running => 5
  | stopped => 4
  | leaving => 3
  | ended => 2
  | refusing _ _ => 1
  | refused _ _ | abandoned | settled _ => 0

/-- The turns that joining takes by itself. -/
def Phase.weight : Phase → Nat
  | accepting => 2
  | joining _ => 1
  | returned _ => 0

/-- More than the turns that a pool has left. -/
def State.weight (state : State α) : Nat :=
  (state.tasks.map fun entry => entry.stage.weight).sum + state.phase.weight

theorem State.weight_put {task : Nat} {job : Job α} {stage : Stage} (after : Stage)
    (there : state.tasks[task]? = some ⟨job, stage⟩) :
    (state.put task job after).weight + stage.weight = state.weight + after.weight := by
  have sum := sum_put (fun entry => entry.stage.weight) after there
  simp only [weight, phase_put] at sum ⊢
  omega

theorem Move.weight_lt {task free after : Nat} {job : Job α} {stage later : Stage}
    (move : Move task job free stage event? after later) : later.weight < stage.weight := by
  cases move <;> simp [Stage.weight]

theorem Turn.weight_lt (turn : Turn state event? next) : next.weight < state.weight := by
  cases turn with
  | @move task job stage _ free after there moves =>
    have sum := State.weight_put after there
    have less := moves.weight_lt
    change (state.put task job after).weight < _
    omega
  | @collect task job other value there ended =>
    have sum := State.weight_put (.settled (some task)) ended
    simp only [Stage.weight] at sum
    omega
  | @blame task job other message there ended =>
    have settled := State.weight_put (.settled (some task)) ended
    have refusing := State.weight_put (.refusing other message)
      (State.there_of_settled (.settled (some task)) there ended)
    simp only [Stage.weight] at settled refusing
    omega
  | clear there none_ended =>
    have sum := State.weight_put .cleared there
    simp only [Stage.weight] at sum
    omega
  | @gather crash? other job joining ended =>
    have sum := State.sum_put (fun entry => entry.stage.weight) (.settled none) ended
    simp only [State.weight, Stage.weight, Phase.weight, joining] at sum ⊢
    omega
  | join accepting idle => simp [State.weight, accepting, Phase.weight]
  | finish joining done => simp [State.weight, joining, Phase.weight]

/-- No pool works for ever when no task is handed in. -/
theorem wellFounded_turn :
    WellFounded fun next state : State α => ∃ event?, Turn state event? next :=
  Subrelation.wf (fun ⟨_, turn⟩ => turn.weight_lt) (measure State.weight).wf

/-- A task that waits for nobody can go on. -/
theorem Stage.exists_move (task free : Nat) (job : Job α) {stage : Stage}
    (busy : stage.done = false) (waiting : stage ≠ .waiting) (collecting : stage ≠ .collecting)
    (ended : stage ≠ .ended) :
    ∃ event? after next, Move task job free stage event? after next ∧
      ∀ other, event? ≠ some (.abandoned other) := by
  cases stage with
  | waiting => exact absurd rfl waiting
  | collecting => exact absurd rfl collecting
  | ended => exact absurd rfl ended
  | refused | abandoned | settled => cases busy
  | granted => exact ⟨_, _, _, .resume, nofun⟩
  | cleared => exact ⟨_, _, _, .accept, nofun⟩
  | refusing => exact ⟨_, _, _, .refuse, nofun⟩
  | queued => exact ⟨_, _, _, .start, nofun⟩
  | running => exact ⟨_, _, _, .finish, nofun⟩
  | stopped => exact ⟨_, _, _, .release, nofun⟩
  | leaving => exact ⟨_, _, _, .announce, nofun⟩

/-- A submission that collects can go on. -/
theorem exists_turn_of_collecting {task : Nat} {job : Job α}
    (there : state.tasks[task]? = some ⟨job, .collecting⟩) : ∃ next, Turn state none next := by
  by_cases left : ∃ entry ∈ state.tasks, entry.stage = .ended
  · obtain ⟨⟨other, _⟩, inside, rfl⟩ := left
    obtain ⟨index, found⟩ := List.mem_iff_getElem?.1 inside
    cases other with
    | deliver value => exact ⟨_, .collect there found⟩
    | crash message => exact ⟨_, .blame there found⟩
  · exact ⟨_, .clear there fun entry inside ended => left ⟨entry, inside, ended⟩⟩

/-- A task that cannot go on by itself has no slot. -/
theorem Stage.slots_of_stuck {stage : Stage}
    (stuck : stage.done = true ∨ stage = .waiting ∨ stage = .ended) : stage.slots = 0 := by
  rcases stuck with done | rfl | rfl
  · cases stage <;> first | rfl | cases done
  · rfl
  · rfl

/-- No slot is in use when no task can go on by itself. -/
theorem State.held_eq_zero (stuck : ∀ entry ∈ state.tasks,
    entry.stage.done = true ∨ entry.stage = .waiting ∨ entry.stage = .ended) : state.held = 0 := by
  apply List.sum_eq_zero_iff_forall_eq_nat.2
  intro part inside
  obtain ⟨entry, listed, rfl⟩ := List.mem_map.1 inside
  exact Stage.slots_of_stuck (stuck entry listed)

/-- A submission that waits is given a slot when nobody has one. -/
theorem Ledger.exists_grant (ledger : Ledger limit state events) (slots : 0 < limit)
    (stuck : ∀ entry ∈ state.tasks,
      entry.stage.done = true ∨ entry.stage = .waiting ∨ entry.stage = .ended)
    (waits : ∃ entry ∈ state.tasks, entry.stage = .waiting) : ∃ next, Turn state none next := by
  obtain ⟨⟨job, _⟩, inside, rfl⟩ := waits
  obtain ⟨task, there⟩ := List.mem_iff_getElem?.1 inside
  have none_held := State.held_eq_zero stuck
  have all := ledger.slots
  obtain ⟨free, isFree⟩ : ∃ free, state.free = free + 1 := ⟨state.free - 1, by omega⟩
  have grant : Move task job state.free .waiting none free .granted := isFree ▸ .grant
  exact ⟨_, .move there grant⟩

/-- A pool in which nothing runs and nobody waits is joined, or what is left is collected. -/
theorem exists_turn_of_ended (unjoined : ∀ crash?, state.phase ≠ .returned crash?)
    (resting : ∀ entry ∈ state.tasks, entry.stage.done = true ∨ entry.stage = .ended) :
    ∃ event? next, Turn state event? next ∧ ∀ task, event? ≠ some (.abandoned task) := by
  cases phase : state.phase with
  | returned crash? => exact absurd phase (unjoined crash?)
  | accepting =>
    have idle : state.Idle := by
      intro entry inside
      rcases resting entry inside with done | ended
      · cases stage : entry.stage <;> first | rfl | simp [stage, Stage.done] at done
      · rw [ended]
        rfl
    exact ⟨none, _, .join phase idle, nofun⟩
  | joining crash? =>
    by_cases left : ∃ entry ∈ state.tasks, entry.stage = .ended
    · obtain ⟨⟨job, _⟩, inside, rfl⟩ := left
      obtain ⟨other, found⟩ := List.mem_iff_getElem?.1 inside
      exact ⟨none, _, .gather phase found, nofun⟩
    · refine ⟨_, _, .finish phase fun entry inside => ?_, nofun⟩
      exact (resting entry inside).resolve_right fun ended => left ⟨entry, inside, ended⟩

/-- A pool that was not joined can go on, and no submission need be given up for it. -/
theorem Ledger.exists_turn (ledger : Ledger limit state events) (slots : 0 < limit)
    (unjoined : ∀ crash?, state.phase ≠ .returned crash?) :
    ∃ event? next, Turn state event? next ∧ ∀ task, event? ≠ some (.abandoned task) := by
  by_cases moves : ∃ entry ∈ state.tasks,
      ¬(entry.stage.done = true ∨ entry.stage = .waiting ∨ entry.stage = .ended)
  · obtain ⟨⟨job, stage⟩, inside, free⟩ := moves
    obtain ⟨task, there⟩ := List.mem_iff_getElem?.1 inside
    by_cases collecting : stage = .collecting
    · subst collecting
      obtain ⟨next, turn⟩ := exists_turn_of_collecting there
      exact ⟨none, next, turn, nofun⟩
    · simp only [not_or] at free
      obtain ⟨event?, after, next, move, kept⟩ := Stage.exists_move task state.free job
        (Bool.eq_false_iff.2 free.1) free.2.1 collecting free.2.2
      exact ⟨event?, _, .move there move, kept⟩
  · have stuck : ∀ entry ∈ state.tasks,
        entry.stage.done = true ∨ entry.stage = .waiting ∨ entry.stage = .ended :=
      fun entry inside => Classical.not_not.1 fun free => moves ⟨entry, inside, free⟩
    by_cases waits : ∃ entry ∈ state.tasks, entry.stage = .waiting
    · obtain ⟨next, turn⟩ := ledger.exists_grant slots stuck waits
      exact ⟨none, next, turn, nofun⟩
    · apply exists_turn_of_ended unjoined
      intro entry inside
      rcases stuck entry inside with done | waiting | ended
      · exact .inl done
      · exact absurd ⟨entry, inside, waiting⟩ waits
      · exact .inr ended

/-- Every pool can be joined, whatever was asked of it so far. -/
theorem Run.exists_returned (slots : 0 < limit) (run : Run limit state events) :
    ∃ final more crash?, Run limit final (events ++ more) ∧ final.phase = .returned crash? := by
  induction state using wellFounded_turn.induction generalizing events with
  | _ state ih =>
    by_cases unjoined : ∀ crash?, state.phase ≠ .returned crash?
    · obtain ⟨event?, next, turn, -⟩ := run.ledger.exists_turn slots unjoined
      obtain ⟨final, more, crash?, later, returned⟩ :=
        ih next ⟨event?, turn⟩ (run.step (.turn turn))
      exact ⟨final, event?.toList ++ more, crash?, by rwa [← List.append_assoc], returned⟩
    · obtain ⟨crash?, returned⟩ := Classical.not_forall.1 unjoined
      exact ⟨state, [], crash?, by rwa [List.append_nil], Classical.not_not.1 returned⟩

end Intake.Workers
