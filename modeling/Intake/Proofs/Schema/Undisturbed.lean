import Intake.Proofs.Schema.Accounting
import Mathlib.Data.Fintype.Basic

/-!
# Surveys and drains that nobody disturbs

The operations of a survey, one after the other, do to the sets what `Discoveries.discover` does at
once: what a survey would have done if it were left alone from now on is the same before and after
each of its operations. Likewise a drain that leaves nothing pending hands over what
`Discoveries.drain` hands over. Both are runs in which everyone can finish.
-/

namespace Intake.Interleaving

/-- What a survey will have done if nobody disturbs it from now on. -/
def Progress.outcome (survey : Survey) (sets : Discoveries) (progress : Progress) :
    Bool × Discoveries :=
  match progress.stage, progress.remaining with
  | .add _, [] => (progress.found, sets)
  | .add type, (name, _) :: rest =>
    (true,
      (Discoveries.visitAll survey.filter survey.reader (sets.addPending name type) rest).2)
  | _, remaining =>
    (progress.found || (Discoveries.visitAll survey.filter survey.reader sets remaining).1,
      (Discoveries.visitAll survey.filter survey.reader sets remaining).2)

/-- A finished survey has done all it will do. -/
theorem Progress.Finished.outcome_eq {progress : Progress} (finished : progress.Finished)
    (survey : Survey) (sets : Discoveries) :
    progress.outcome survey sets = (progress.found, sets) := by
  obtain ⟨stage, remaining, found⟩ := progress
  obtain rfl : remaining = [] := finished
  cases stage <;> simp [outcome, Discoveries.visitAll]

/-- An operation of a survey brings it nearer to its outcome and does not change the outcome. -/
theorem SurveyStep.outcome_eq {survey : Survey} {sets nextSets : Discoveries}
    {progress next : Progress} {operation : SurveyOperation}
    (step : SurveyStep survey sets progress operation nextSets next)
    (sound : progress.Sound survey) :
    next.outcome survey nextSets = progress.outcome survey sets := by
  cases step with
  | pass known | lose known =>
    simp [Progress.outcome, Discoveries.visitAll, Discoveries.visit, known]
  | @postpone name value _ _ unknown undecided =>
    have verdict : Discoveries.verdict survey.filter survey.reader name value = .undecided :=
      undecided
    simp [Progress.outcome, Discoveries.visitAll, Discoveries.visit, unknown, verdict]
  | judge => rfl
  | @reject name value rest _ unknown =>
    have verdict : Discoveries.verdict survey.filter survey.reader name value = .rejected :=
      sound.judged .rejected name value rest rfl rfl
    simp [Progress.outcome, Discoveries.visitAll, Discoveries.visit, unknown, verdict]
  | @win type name value rest _ unknown =>
    have verdict : Discoveries.verdict survey.filter survey.reader name value = .admitted type :=
      sound.judged (.admitted type) name value rest rfl rfl
    simp [Progress.outcome, Discoveries.visitAll, Discoveries.visit, unknown, verdict]
  | add => simp [Progress.outcome]

section

variable {survey : Survey} {sets : Discoveries} {configuration : Configuration Unit Empty}
  {events : List (Event Unit Empty)}

/-- A survey that was never disturbed is still on its way to what a discovery does. -/
theorem Run.outcome_eq (run : Run (fun _ => survey) sets configuration events) :
    (configuration.surveys ()).outcome survey configuration.sets =
      sets.discover survey.filter survey.reader survey.record := by
  induction run with
  | start => simp [Configuration.start, Progress.start, Progress.outcome, Discoveries.discover]
  | step prior step ih =>
    cases step with
    | survey _ step =>
      rw [← ih, ← step.outcome_eq (prior.sound ())]
      simp
    | drain drainer => exact drainer.elim

/-- A survey that nobody disturbs does what a discovery does. -/
theorem Run.discover_eq (run : Run (fun _ => survey) sets configuration events)
    (finished : (configuration.surveys ()).Finished) :
    sets.discover survey.filter survey.reader survey.record =
      ((configuration.surveys ()).found, configuration.sets) := by
  rw [← run.outcome_eq, finished.outcome_eq]

/-- An operation of a survey leads a run to where it leads the survey. -/
theorem Run.move (run : Run (fun _ => survey) sets configuration events)
    {operation : SurveyOperation} {progress next : Progress} {nextSets : Discoveries}
    (here : configuration.surveys () = progress)
    (step : SurveyStep survey configuration.sets progress operation nextSets next) :
    ∃ moved : Configuration Unit Empty,
      Run (fun _ => survey) sets moved (events ++ [.survey () operation]) ∧
        moved.sets = nextSets ∧ moved.surveys () = next :=
  ⟨_, run.step (.survey () (by rw [here]; exact step)), rfl, by simp⟩

/-- A survey that nobody disturbs gets through whatever is left of its record. -/
theorem Run.exists_finished (run : Run (fun _ => survey) sets configuration events)
    {remaining : List (String × Json)} {found : Bool}
    (here : configuration.surveys () = ⟨.look, remaining, found⟩) :
    ∃ (last : Configuration Unit Empty) (all : List (Event Unit Empty)),
      Run (fun _ => survey) sets last all ∧ (last.surveys ()).Finished := by
  induction remaining generalizing configuration events found with
  | nil => exact ⟨configuration, events, run, by rw [here]; rfl⟩
  | cons entry rest ih =>
    obtain ⟨name, value⟩ := entry
    cases unknown : configuration.sets.isKnown name with
    | true =>
      obtain ⟨_, passed, -, there⟩ := run.move here (.pass unknown)
      exact ih passed there
    | false =>
      cases verdict : survey.verdict name value with
      | undecided =>
        obtain ⟨_, passed, -, there⟩ := run.move here (.postpone unknown verdict)
        exact ih passed there
      | rejected =>
        obtain ⟨_, judged, same, there⟩ := run.move here (.judge unknown (by simp [verdict]))
        rw [verdict] at there
        obtain ⟨_, marked, -, there⟩ := judged.move there (.reject (by rw [same]; exact unknown))
        exact ih marked there
      | admitted type =>
        obtain ⟨_, judged, same, there⟩ := run.move here (.judge unknown (by simp [verdict]))
        rw [verdict] at there
        obtain ⟨_, won, -, there⟩ := judged.move there (.win (by rw [same]; exact unknown))
        obtain ⟨_, added, -, there⟩ := won.move there .add
        exact ih added there

/-- What a discovery does, some undisturbed survey does. -/
theorem exists_run_discover_eq (survey : Survey) (sets : Discoveries) :
    ∃ (configuration : Configuration Unit Empty) (events : List (Event Unit Empty)),
      Run (fun _ => survey) sets configuration events ∧ (configuration.surveys ()).Finished ∧
        sets.discover survey.filter survey.reader survey.record =
          ((configuration.surveys ()).found, configuration.sets) := by
  have first : Run (fun _ => survey) sets
      (Configuration.start (fun _ => survey) sets : Configuration Unit Empty) [] := .start
  obtain ⟨configuration, events, run, finished⟩ := first.exists_finished rfl
  exact ⟨configuration, events, run, finished, run.discover_eq finished⟩

end

section

variable {surveys : Empty → Survey} {sets : Discoveries} {configuration : Configuration Empty Unit}
  {events : List (Event Empty Unit)}

/-- Nothing is added where there is no survey. -/
theorem additions_of_no_survey (events : List (Event Empty Unit)) : additions events = [] := by
  refine List.filterMap_eq_nil_iff.2 fun event _ => ?_
  cases event with
  | survey surveyor => exact surveyor.elim
  | drain => rfl

/-- Draining decides no name. -/
theorem Run.known_eq (run : Run surveys sets configuration events) :
    configuration.sets.known = sets.known := by
  induction run with
  | start => rfl
  | step prior step ih =>
    cases step with
    | survey surveyor => exact surveyor.elim
    | drain _ step => exact step.known_eq.trans ih

/-- A drain hands its fields over in the order of their names. -/
theorem Draining.result_sorted (draining : Draining) :
    draining.result.Pairwise fun left right => left.name ≤ right.name := by
  have sorted : draining.result.Pairwise fun left right => decide (left.name ≤ right.name) = true :=
    List.pairwise_mergeSort (by simpa using fun a b c : NewField => String.le_trans)
      (by simpa using fun a b : NewField => String.le_total a.name b.name) draining.taken
  simpa using sorted

/-- A drain that nobody disturbs and that leaves nothing pending does what `Discoveries.drain`
does. -/
theorem Run.drain_eq (run : Run surveys sets configuration events) (settled : sets.PendingKnown)
    (emptied : configuration.sets.pending = .empty) :
    sets.drain = ((configuration.drains ()).result, configuration.sets) := by
  have account := run.gathered_eq settled
  have same : sets.pendingFields.Perm (configuration.drains ()).result := by
    simpa [Configuration.gathered, Discoveries.pendingFields, emptied, NameMap.empty,
      additions_of_no_survey, Multiset.coe_eq_coe, List.perm_comm] using account
  have fields : sets.pendingFields = (configuration.drains ()).result := by
    have ascending : sets.pendingFields.Pairwise fun left right => left.name ≤ right.name :=
      sets.pendingFields_ascending.imp fun below => String.not_lt.1 (String.lt_asymm below)
    refine List.Perm.eq_of_pairwise (fun left right inside other below above => ?_) ascending
      (configuration.drains ()).result_sorted same
    -- Fields of one name are one field, since names are pending once.
    have names : left.name = right.name := String.le_antisymm below above
    have leftType := Discoveries.mem_pendingFields_iff.1 inside
    have rightType := Discoveries.mem_pendingFields_iff.1 (same.mem_iff.2 other)
    rw [names, rightType] at leftType
    cases left
    cases right
    simp_all
  have final : { sets with pending := .empty } = configuration.sets := by
    rw [← run.known_eq, ← emptied]
  rw [Discoveries.drain, fields, final]

/-- An operation of a drain leads a run to where it leads the drain. -/
theorem Run.shift (run : Run surveys sets configuration events) {operation : DrainOperation}
    {draining next : Draining} {nextSets : Discoveries}
    (here : configuration.drains () = draining)
    (step : DrainStep configuration.sets draining operation nextSets next) :
    ∃ shifted : Configuration Empty Unit,
      Run surveys sets shifted (events ++ [.drain () operation]) ∧
        shifted.sets = nextSets ∧ shifted.drains () = next :=
  ⟨_, run.step (.drain () (by rw [here]; exact step)), rfl, by simp⟩

/-- A drain may list all names that are pending. -/
theorem Run.exists_listed (run : Run surveys sets configuration events) {listed : List String}
    (here : configuration.drains () = ⟨true, listed, []⟩) (names : List String)
    (pending : ∀ name ∈ names, configuration.sets.pending.contains name = true) :
    ∃ (last : Configuration Empty Unit) (all : List (Event Empty Unit)),
      Run surveys sets last all ∧ last.sets = configuration.sets ∧
        last.drains () = ⟨true, listed ++ names, []⟩ := by
  induction names generalizing configuration events listed with
  | nil => exact ⟨configuration, events, run, rfl, by simpa using here⟩
  | cons name rest ih =>
    obtain ⟨_, longer, same, there⟩ := run.shift here (.list name (pending name (by simp)))
    obtain ⟨last, all, final, unchanged, done⟩ := ih longer there fun other inside => by
      rw [same]
      exact pending other (List.mem_cons_of_mem _ inside)
    exact ⟨last, all, final, unchanged.trans same, by simpa using done⟩

/-- A drain that has listed what is pending may take all of it. -/
theorem Run.exists_emptied (run : Run surveys sets configuration events)
    {entries : List (String × FieldType)} {taken : List NewField}
    (held : configuration.sets.pending.entries = entries)
    (here : configuration.drains () = ⟨false, entries.map Prod.fst, taken⟩) :
    ∃ (last : Configuration Empty Unit) (all : List (Event Empty Unit)),
      Run surveys sets last all ∧ last.sets.pending = .empty ∧ (last.drains ()).Finished := by
  induction entries generalizing configuration events taken with
  | nil => exact ⟨configuration, events, run, NameMap.ext held, by rw [here]; exact ⟨rfl, rfl⟩⟩
  | cons entry rest ih =>
    obtain ⟨name, type⟩ := entry
    have front : configuration.sets.pending.find? name = some type :=
      NameMap.find?_eq_some_iff.2 (by simp [held])
    obtain ⟨_, shorter, removed, there⟩ := run.shift here (.take front)
    refine ih shorter ?_ there
    simp [removed, Discoveries.removePending, NameMap.erase, held, eraseEntry]

/-- What `Discoveries.drain` does, some undisturbed drain does. -/
theorem exists_run_drain_eq (surveys : Empty → Survey) (sets : Discoveries)
    (settled : sets.PendingKnown) :
    ∃ (configuration : Configuration Empty Unit) (events : List (Event Empty Unit)),
      Run surveys sets configuration events ∧ (configuration.drains ()).Finished ∧
        sets.drain = ((configuration.drains ()).result, configuration.sets) := by
  have first : Run surveys sets
      (Configuration.start surveys sets : Configuration Empty Unit) [] := .start
  have pending : ∀ name ∈ sets.pending.names, sets.pending.contains name = true := by
    intro name inside
    obtain ⟨entry, held, rfl⟩ := List.mem_map.1 inside
    exact Option.isSome_iff_exists.2 ⟨entry.2, NameMap.find?_eq_some_iff.2 held⟩
  obtain ⟨_, _, listed, same, there⟩ := first.exists_listed rfl sets.pending.names pending
  obtain ⟨_, closed, unchanged, there⟩ := listed.shift there .close
  obtain ⟨configuration, events, run, emptied, finished⟩ :=
    closed.exists_emptied (by rw [unchanged, same]; rfl) there
  exact ⟨configuration, events, run, finished, run.drain_eq settled emptied⟩

end

end Intake.Interleaving
