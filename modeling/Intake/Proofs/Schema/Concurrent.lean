import Intake.Proofs.Schema.Accounting
import Mathlib.Data.Fintype.Basic

/-!
# Concurrent discovery

`Run.reported_once` joins the fate of each name, the account of all fields and the coverage of each
survey to what may be relied on when surveys and drains share the sets. It holds of every run,
finished or not, as far as its parts do not ask for the end.
-/

namespace Intake.Interleaving

variable {Surveyor Drainer : Type}

/-- Every field of the record that has a verdict is known or still ahead. -/
def Progress.Covers (survey : Survey) (sets : Discoveries) (progress : Progress) : Prop :=
  ∀ name value, survey.record.find? name = some value →
    survey.verdict name value ≠ .undecided →
    sets.isKnown name = true ∨ (name, value) ∈ progress.remaining

theorem Progress.Covers.start (survey : Survey) (sets : Discoveries) :
    (Progress.start survey).Covers survey sets :=
  fun _ _ held _ => .inr (NameMap.find?_eq_some_iff.1 held)

/-- A survey may leave the field in front behind once it is known or has no verdict. -/
theorem Progress.Covers.leave {survey : Survey} {sets nextSets : Discoveries} {stage : Stage}
    {name : String} {value : Json} {rest : List (String × Json)} {found : Bool}
    (covers : Progress.Covers survey sets ⟨stage, (name, value) :: rest, found⟩)
    (grows : ∀ other, sets.isKnown other = true → nextSets.isKnown other = true)
    (done : survey.verdict name value = .undecided ∨ nextSets.isKnown name = true)
    (nextStage : Stage) (nextFound : Bool) :
    Progress.Covers survey nextSets ⟨nextStage, rest, nextFound⟩ := by
  intro other held record decided
  rcases covers other held record decided with known | ahead
  · exact .inl (grows other known)
  · rcases List.mem_cons.1 ahead with front | later
    · obtain ⟨rfl, rfl⟩ := Prod.mk.inj front
      exact .inl (done.resolve_left decided)
    · exact .inr later

/-- What is known stays known. -/
theorem SurveyStep.isKnown_mono {survey : Survey} {sets nextSets : Discoveries}
    {progress next : Progress} {operation : SurveyOperation}
    (step : SurveyStep survey sets progress operation nextSets next) (name : String)
    (known : sets.isKnown name = true) : nextSets.isKnown name = true := by
  cases step with
  | pass | postpone | judge | lose | add => exact known
  | reject | win => simp [known]

/-- A survey keeps every decided field of its record in sight. -/
theorem SurveyStep.covers {survey : Survey} {sets nextSets : Discoveries}
    {progress next : Progress} {operation : SurveyOperation}
    (step : SurveyStep survey sets progress operation nextSets next)
    (covers : progress.Covers survey sets)
    (owed : ∀ name type, progress.Owes name type → sets.isKnown name = true) :
    next.Covers survey nextSets := by
  have grows := step.isKnown_mono
  cases step with
  | pass known | lose known => exact covers.leave grows (.inr known) _ _
  | postpone _ undecided => exact covers.leave grows (.inl undecided) _ _
  | judge => exact covers
  | reject => exact covers.leave grows (.inr (by simp)) _ _
  | win =>
    intro name value held decided
    exact (covers name value held decided).imp_left (grows name)
  | add => exact covers.leave grows (.inr (owed _ _ (Progress.owes_add_iff.2 ⟨rfl, rfl⟩))) _ _

variable [DecidableEq Surveyor] [DecidableEq Drainer] {surveys : Surveyor → Survey}
  {sets : Discoveries} {configuration : Configuration Surveyor Drainer}
  {events : List (Event Surveyor Drainer)}

/-- Every survey of a run keeps its decided fields in sight, whatever the others do. -/
theorem Run.covers (run : Run surveys sets configuration events) (surveyor : Surveyor) :
    (configuration.surveys surveyor).Covers (surveys surveyor) configuration.sets := by
  induction run with
  | start => exact .start (surveys surveyor) sets
  | step prior step ih =>
    cases step with
    | drain drainer step =>
      intro name value held decided
      exact (ih name value held decided).imp_left (step.isKnown_eq name).trans
    | survey mover step =>
      by_cases moves : surveyor = mover
      · subst moves
        have next := step.covers ih fun name type owes => by
          obtain ⟨⟨_, claimed, _⟩, _⟩ := (prior.fate name).of_owes owes
          exact claimed.known
        simpa using next
      · intro name value held decided
        simpa [Function.update_of_ne moves] using
          (ih name value held decided).imp_left (step.isKnown_mono name)

/-- A name that is unknown at the start is reported as often as it was added. -/
theorem Run.filter_gathered [Fintype Drainer] (run : Run surveys sets configuration events)
    (settled : sets.PendingKnown) {name : String} (fresh : sets.isKnown name = false) :
    configuration.gathered.filter (fun field => field.name = name) =
      ((additionsOf events name).map Prod.snd : List NewField) := by
  have none : Multiset.filter (fun field : NewField => field.name = name) sets.pendingFields =
      0 := by
    refine Multiset.filter_eq_nil.2 fun field inside same => ?_
    have known := settled name (by
      simp [NameMap.contains, same ▸ Discoveries.mem_pendingFields_iff.1 inside])
    simp [fresh] at known
  rw [run.gathered_eq settled, Multiset.filter_add, filter_map_additions, none, zero_add]

/-- What was known at the start or has been added is known. -/
theorem Run.isKnown_of_known_or_added (run : Run surveys sets configuration events) {name : String}
    (reason : sets.isKnown name = true ∨ additionsOf events name ≠ []) :
    configuration.sets.isKnown name = true := by
  cases run.fate name with
  | untouched same _ unadded => exact same.trans (reason.resolve_right (absurd unadded))
  | rejected claimed | owed claimed | added claimed => exact claimed.known

/-- Every run leaves sets in which every pending name is known, so that another may follow. -/
theorem Run.pendingKnown [Fintype Drainer] (run : Run surveys sets configuration events)
    (settled : sets.PendingKnown) : configuration.sets.PendingKnown :=
  fun _ pending => run.isKnown_of_known_or_added (run.known_or_added_of_pending settled pending)

/-- A finished survey leaves every name known that it admits with a type. -/
theorem Run.isKnown_of_admitted (run : Run surveys sets configuration events)
    {surveyor : Surveyor} (finished : (configuration.surveys surveyor).Finished) {name : String}
    {value : Json} (held : (surveys surveyor).record.find? name = some value)
    (admitted : (surveys surveyor).filter.admits name = true)
    (concrete : value.detectType (surveys surveyor).reader ≠ .unknown) :
    configuration.sets.isKnown name = true := by
  have verdict : (surveys surveyor).verdict name value =
      .admitted (value.detectType (surveys surveyor).reader) :=
    Discoveries.verdict_eq_admitted_iff.2 ⟨admitted, rfl, concrete⟩
  refine (run.covers surveyor name value held (by simp [verdict])).resolve_right ?_
  rw [finished]
  exact List.not_mem_nil

/-- Surveys of records, each with a filter of its own, and drains run in any order on sets in which
every pending name is known, as it is in new sets and in those that an earlier run leaves.

A name is added at most once, and only by the survey whose insertion made it known. When everyone
is finished, a name that has become known was claimed by one survey that has it in its record:
either the filter of that survey rejects it, and no event and no outcome ever showed it, or all
drains and the pending set together hold it once, with the type of its value in that record. A
finished survey leaves every name known that it admits with a type. -/
theorem Run.reported_once [Fintype Drainer] (run : Run surveys sets configuration events)
    (settled : sets.PendingKnown) :
    (∀ name, additionsOf events name = [] ∨
      ∃ surveyor field, additionsOf events name = [(surveyor, field)] ∧
        winners events name = [surveyor]) ∧
    (configuration.Finished → ∀ name, sets.isKnown name = false →
      configuration.sets.isKnown name = true →
      ∃ surveyor value, winners events name = [surveyor] ∧
        (surveys surveyor).record.find? name = some value ∧
        ((surveys surveyor).filter.admits name = false ∧
            (∀ event ∈ events, ¬event.Shows name) ∧
            configuration.gathered.filter (fun field => field.name = name) = 0 ∨
          (surveys surveyor).filter.admits name = true ∧
            value.detectType (surveys surveyor).reader ≠ .unknown ∧
            configuration.gathered.filter (fun field => field.name = name) =
              {{ name := name, type := value.detectType (surveys surveyor).reader }})) ∧
    ∀ surveyor, (configuration.surveys surveyor).Finished →
      ∀ name value, (surveys surveyor).record.find? name = some value →
        (surveys surveyor).filter.admits name = true →
        value.detectType (surveys surveyor).reader ≠ .unknown →
        configuration.sets.isKnown name = true := by
  refine ⟨fun name => ?_, fun finished name fresh known => ?_,
    fun surveyor finished name value held => run.isKnown_of_admitted finished held⟩
  · cases run.fate name with
    | untouched _ _ unadded | rejected _ _ unadded | owed _ _ unadded => exact .inl unadded
    | added claimed _ added => exact .inr ⟨_, _, added, claimed.won⟩
  · cases run.fate name with
    | untouched same => simp [same, fresh] at known
    | rejected claimed verdict unadded =>
      refine ⟨_, _, claimed.won, claimed.held,
        .inl ⟨Discoveries.verdict_eq_rejected_iff.1 verdict, fun event inside shows => ?_, ?_⟩⟩
      · rcases run.known_or_added_of_shows settled inside shows with early | added
        · simp [fresh] at early
        · exact added unadded
      · rw [run.filter_gathered settled fresh, unadded]
        rfl
    | owed claimed _ _ owes =>
      exact absurd ((owes _ _).2 ⟨rfl, rfl⟩) (finished.1 _).not_owes
    | added claimed verdict added =>
      obtain ⟨admitted, rfl, concrete⟩ := Discoveries.verdict_eq_admitted_iff.1 verdict
      refine ⟨_, _, claimed.won, claimed.held, .inr ⟨admitted, concrete, ?_⟩⟩
      rw [run.filter_gathered settled fresh, added]
      rfl

/-- Two surveys that see the same field with values of different types. -/
def race (second : Bool) : Survey where
  filter := {}
  reader := { layouts := [] }
  record := NameMap.empty.insert "load" (if second then .string "high" else .bool true)

/-- An order of operations in which both surveys look before either marks. -/
def raceEvents : List (Event Bool Unit) :=
  [.survey true (.look "load" false), .survey false (.look "load" false),
    .survey true (.mark "load" true), .survey false (.mark "load" false),
    .survey true (.add "load" (.scalar .string)),
    .drain () (.list "load"), .drain () .close, .drain () (.remove "load" (some (.scalar .string)))]

/-- That order is a run, and it leaves nobody unfinished. -/
theorem race_run : ∃ configuration : Configuration Bool Unit,
    Run race {} configuration raceEvents ∧ configuration.Finished ∧
      configuration.sets.isKnown "load" = true := by
  have first : Run race {} (Configuration.start race {} : Configuration Bool Unit) [] := .start
  have looked := (first.step (.survey true (.judge (by decide) (by decide)))).step
    (.survey false (.judge (by decide) (by decide)))
  have marked := (looked.step (.survey true (.win (by decide)))).step
    (.survey false (.lose (by decide)))
  have added := marked.step (.survey true .add)
  have listed := (added.step (.drain () (.list "load" (by decide)))).step (.drain () .close)
  have taken := listed.step (.drain () (.take rfl))
  refine ⟨_, taken, ⟨fun second => ?_, fun _ => ⟨rfl, rfl⟩⟩, by decide⟩
  cases second <;> rfl

/-- The field of the race is reported once, with the type that its winner saw. -/
theorem race_reported_once : ∃ configuration : Configuration Bool Unit,
    Run race {} configuration raceEvents ∧ Discoveries.PendingKnown {} ∧ configuration.Finished ∧
      configuration.gathered.filter (fun field => field.name = "load") =
        {{ name := "load", type := .scalar .string }} := by
  obtain ⟨configuration, run, finished, known⟩ := race_run
  have settled : Discoveries.PendingKnown {} := .of_empty rfl
  refine ⟨configuration, run, settled, finished, ?_⟩
  obtain ⟨surveyor, value, won, held, outcome⟩ :=
    (Run.reported_once run settled).2.1 finished "load" rfl known
  obtain rfl : true = surveyor := (List.cons.inj won).1
  obtain rfl : .string "high" = value := Option.some.inj held
  rcases outcome with ⟨rejected, -⟩ | ⟨-, -, once⟩
  · exact absurd rejected (by decide)
  · exact once

end Intake.Interleaving
