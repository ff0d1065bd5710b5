import Intake.Proofs.Schema.Interleaving

/-!
# What becomes of a name

For every name a run is in one of four situations: nobody has made the name known, its winner has
rejected it, its winner still owes the addition, or its winner has added it. `Run.fate` says so and
names the winner; the events of a run are the evidence. From it `Run.gathered_eq` accounts for every
field that was ever added: it was handed over by one drain or is still pending.

Nothing here is said about progress: a run may leave any survey or drain unfinished.
-/

namespace Intake.Interleaving

variable {Surveyor Drainer : Type}

/-- Whoever makes a name known by an event. -/
def Event.winner? (name : String) : Event Surveyor Drainer → Option Surveyor
  | .survey surveyor (.mark other true) => if other = name then some surveyor else none
  | _ => none

/-- The field that an event makes pending, and who adds it. -/
def Event.addition? : Event Surveyor Drainer → Option (Surveyor × NewField)
  | .survey surveyor (.add name type) => some (surveyor, { name := name, type := type })
  | _ => none

/-- Those who made a name known, one entry for each insertion that answered that it is new. -/
def winners (events : List (Event Surveyor Drainer)) (name : String) : List Surveyor :=
  events.filterMap (Event.winner? name)

/-- All insertions of pending fields in order. -/
def additions (events : List (Event Surveyor Drainer)) : List (Surveyor × NewField) :=
  events.filterMap Event.addition?

/-- The insertions of one pending field in order. -/
def additionsOf (events : List (Event Surveyor Drainer)) (name : String) :
    List (Surveyor × NewField) :=
  (additions events).filter fun addition => addition.2.name = name

theorem winners_append (events : List (Event Surveyor Drainer)) (event : Event Surveyor Drainer)
    (name : String) :
    winners (events ++ [event]) name = winners events name ++ (event.winner? name).toList := by
  simp only [winners, List.filterMap_append, List.filterMap_cons, List.filterMap_nil]
  cases event.winner? name <;> rfl

theorem additions_append (events : List (Event Surveyor Drainer))
    (event : Event Surveyor Drainer) :
    additions (events ++ [event]) = additions events ++ event.addition?.toList := by
  simp only [additions, List.filterMap_append, List.filterMap_cons, List.filterMap_nil]
  cases event.addition? <;> rfl

/-- The survey is about to add a field. -/
structure Progress.Owes (progress : Progress) (name : String) (type : FieldType) : Prop where
  stage : progress.stage = .add type
  front : ∃ value rest, progress.remaining = (name, value) :: rest

theorem Progress.not_owes_look {remaining : List (String × Json)} {found : Bool} {name : String}
    {type : FieldType} : ¬Progress.Owes ⟨.look, remaining, found⟩ name type :=
  fun owes => Stage.noConfusion owes.stage

theorem Progress.not_owes_mark {verdict : Discoveries.Verdict} {remaining : List (String × Json)}
    {found : Bool} {name : String} {type : FieldType} :
    ¬Progress.Owes ⟨.mark verdict, remaining, found⟩ name type :=
  fun owes => Stage.noConfusion owes.stage

theorem Progress.owes_add_iff {type other : FieldType} {front name : String} {value : Json}
    {rest : List (String × Json)} {found : Bool} :
    Progress.Owes ⟨.add type, (front, value) :: rest, found⟩ name other ↔
      front = name ∧ type = other := by
  constructor
  · rintro ⟨stage, held, others, shape⟩
    exact ⟨congrArg Prod.fst (List.cons.inj shape).1, Stage.add.inj stage⟩
  · rintro ⟨rfl, rfl⟩
    exact ⟨rfl, value, rest, rfl⟩

/-- A survey that is finished owes nothing. -/
theorem Progress.Finished.not_owes {progress : Progress} (finished : progress.Finished)
    {name : String} {type : FieldType} : ¬progress.Owes name type := by
  rintro ⟨-, value, rest, front⟩
  rw [Progress.Finished] at finished
  simp [finished] at front

/-- What a survey knows of its own record: the fields left are fields of it, and the verdict it
holds is its own. -/
structure Progress.Sound (survey : Survey) (progress : Progress) : Prop where
  held : ∀ entry ∈ progress.remaining, survey.record.find? entry.1 = some entry.2
  judged : ∀ verdict name value rest, progress.stage = .mark verdict →
    progress.remaining = (name, value) :: rest → survey.verdict name value = verdict

theorem Progress.Sound.start (survey : Survey) : (Progress.start survey).Sound survey where
  held _ inside := NameMap.find?_eq_some_iff.2 inside
  judged _ _ _ _ stage := Stage.noConfusion stage

/-- An operation keeps what a survey knows of its record. -/
theorem SurveyStep.sound {survey : Survey} {sets nextSets : Discoveries}
    {progress next : Progress} {operation : SurveyOperation}
    (step : SurveyStep survey sets progress operation nextSets next)
    (sound : progress.Sound survey) : next.Sound survey := by
  have later : ∀ {name value rest found}, progress.remaining = (name, value) :: rest →
      Progress.Sound survey ⟨.look, rest, found⟩ := by
    intro name value rest found shape
    refine ⟨fun entry inside => sound.held entry ?_, fun _ _ _ _ stage => Stage.noConfusion stage⟩
    rw [shape]
    exact List.mem_cons_of_mem _ inside
  cases step with
  | pass | postpone | lose | reject | add => exact later rfl
  | judge =>
    refine ⟨sound.held, ?_⟩
    rintro verdict name value rest stage front
    obtain ⟨front, -⟩ := List.cons.inj front
    obtain ⟨rfl, rfl⟩ := Prod.mk.inj front
    exact Stage.mark.inj stage
  | win => exact ⟨sound.held, fun _ _ _ _ stage => Stage.noConfusion stage⟩

/-- Draining decides nothing. -/
theorem DrainStep.known_eq {sets nextSets : Discoveries} {draining next : Draining}
    {operation : DrainOperation} (step : DrainStep sets draining operation nextSets next) :
    nextSets.known = sets.known := by
  cases step <;> rfl

theorem DrainStep.isKnown_eq {sets nextSets : Discoveries} {draining next : Draining}
    {operation : DrainOperation} (step : DrainStep sets draining operation nextSets next)
    (name : String) : nextSets.isKnown name = sets.isKnown name := by
  rw [Discoveries.isKnown, Discoveries.isKnown, step.known_eq]

/-- A name that was new has one winner, who has it in the record. -/
structure Claimed (surveys : Surveyor → Survey) (sets : Discoveries)
    (configuration : Configuration Surveyor Drainer) (events : List (Event Surveyor Drainer))
    (name : String) (surveyor : Surveyor) (value : Json) : Prop where
  fresh : sets.isKnown name = false
  known : configuration.sets.isKnown name = true
  won : winners events name = [surveyor]
  held : (surveys surveyor).record.find? name = some value

/-- What has become of a name since the run began with `sets`. -/
inductive Fate (surveys : Surveyor → Survey) (sets : Discoveries)
    (configuration : Configuration Surveyor Drainer) (events : List (Event Surveyor Drainer))
    (name : String) : Prop where
  /-- Nobody has made the name known. -/
  | untouched (known : configuration.sets.isKnown name = sets.isKnown name)
      (unclaimed : winners events name = []) (unadded : additionsOf events name = [])
      (unowed : ∀ surveyor type, ¬(configuration.surveys surveyor).Owes name type)
  /-- The winner has rejected the name. -/
  | rejected {surveyor value}
      (claimed : Claimed surveys sets configuration events name surveyor value)
      (verdict : (surveys surveyor).verdict name value = .rejected)
      (unadded : additionsOf events name = [])
      (unowed : ∀ surveyor type, ¬(configuration.surveys surveyor).Owes name type)
  /-- The winner, and nobody else, is about to add the field. -/
  | owed {surveyor value type}
      (claimed : Claimed surveys sets configuration events name surveyor value)
      (verdict : (surveys surveyor).verdict name value = .admitted type)
      (unadded : additionsOf events name = [])
      (owes : ∀ other otherType, (configuration.surveys other).Owes name otherType ↔
        other = surveyor ∧ otherType = type)
  /-- The winner has added the field. -/
  | added {surveyor value type}
      (claimed : Claimed surveys sets configuration events name surveyor value)
      (verdict : (surveys surveyor).verdict name value = .admitted type)
      (added : additionsOf events name = [(surveyor, { name := name, type := type })])
      (unowed : ∀ surveyor type, ¬(configuration.surveys surveyor).Owes name type)

section

variable {surveys : Surveyor → Survey} {sets : Discoveries}
  {configuration next : Configuration Surveyor Drainer}
  {events : List (Event Surveyor Drainer)} {event : Event Surveyor Drainer} {name : String}

theorem additionsOf_append :
    additionsOf (events ++ [event]) name =
      additionsOf events name ++
        event.addition?.toList.filter fun addition => addition.2.name = name := by
  simp [additionsOf, additions_append]

theorem additionsOf_append_of_none (none : event.addition? = none) :
    additionsOf (events ++ [event]) name = additionsOf events name := by
  simp [additionsOf_append, none]

/-- An event that concerns another name changes nothing about this one. -/
theorem Fate.frame (fate : Fate surveys sets configuration events name)
    (known : next.sets.isKnown name = configuration.sets.isKnown name)
    (unwon : event.winner? name = none)
    (unadded : additionsOf (events ++ [event]) name = additionsOf events name)
    (owes : ∀ surveyor type, (next.surveys surveyor).Owes name type ↔
      (configuration.surveys surveyor).Owes name type) :
    Fate surveys sets next (events ++ [event]) name := by
  have winners : winners (events ++ [event]) name = winners events name := by
    simp [winners_append, unwon]
  have claims : ∀ {surveyor value},
      Claimed surveys sets configuration events name surveyor value →
      Claimed surveys sets next (events ++ [event]) name surveyor value :=
    fun claimed => ⟨claimed.fresh, known.trans claimed.known, winners.trans claimed.won,
      claimed.held⟩
  cases fate with
  | untouched same unclaimed absent unowed =>
    exact .untouched (known.trans same) (winners.trans unclaimed) (unadded.trans absent)
      fun surveyor type => (not_congr (owes surveyor type)).2 (unowed surveyor type)
  | rejected claimed verdict absent unowed =>
    exact .rejected (claims claimed) verdict (unadded.trans absent)
      fun surveyor type => (not_congr (owes surveyor type)).2 (unowed surveyor type)
  | owed claimed verdict absent owed =>
    exact .owed (claims claimed) verdict (unadded.trans absent)
      fun surveyor type => (owes surveyor type).trans (owed surveyor type)
  | added claimed verdict present unowed =>
    exact .added (claims claimed) verdict (unadded.trans present)
      fun surveyor type => (not_congr (owes surveyor type)).2 (unowed surveyor type)

/-- A name that is still unknown was not known at the start either, and nobody has touched it. -/
theorem Fate.of_unknown (fate : Fate surveys sets configuration events name)
    (unknown : configuration.sets.isKnown name = false) :
    sets.isKnown name = false ∧ winners events name = [] ∧ additionsOf events name = [] ∧
      ∀ surveyor type, ¬(configuration.surveys surveyor).Owes name type := by
  cases fate with
  | untouched known unclaimed unadded unowed =>
    exact ⟨known ▸ unknown, unclaimed, unadded, unowed⟩
  | rejected claimed | owed claimed | added claimed =>
    exact absurd claimed.known (by simp [unknown])

/-- Only the winner of a name owes its addition, and nobody has added it yet. -/
theorem Fate.of_owes (fate : Fate surveys sets configuration events name) {surveyor : Surveyor}
    {type : FieldType} (owes : (configuration.surveys surveyor).Owes name type) :
    (∃ value, Claimed surveys sets configuration events name surveyor value ∧
      (surveys surveyor).verdict name value = .admitted type) ∧
      additionsOf events name = [] ∧
      ∀ other otherType, (configuration.surveys other).Owes name otherType → other = surveyor := by
  cases fate with
  | untouched _ _ _ unowed | rejected _ _ _ unowed | added _ _ _ unowed =>
    exact absurd owes (unowed surveyor type)
  | owed claimed verdict unadded owers =>
    obtain ⟨rfl, rfl⟩ := (owers surveyor type).1 owes
    exact ⟨⟨_, claimed, verdict⟩, unadded, fun other otherType owing =>
      ((owers other otherType).1 owing).1⟩

variable [DecidableEq Surveyor]

/-- Who owes what is as before if the survey that moved owes what it owed. -/
theorem owes_update_iff {progresses : Surveyor → Progress} {mover : Surveyor} {moved : Progress}
    (same : ∀ type, moved.Owes name type ↔ (progresses mover).Owes name type)
    (surveyor : Surveyor) (type : FieldType) :
    (Function.update progresses mover moved surveyor).Owes name type ↔
      (progresses surveyor).Owes name type := by
  by_cases moves : surveyor = mover
  · subst moves
    simpa using same type
  · simp [Function.update_of_ne moves]

/-- Nobody owes a name that nobody owed if the survey that moved does not owe it. -/
theorem not_owes_update {progresses : Surveyor → Progress} {mover : Surveyor} {moved : Progress}
    (unowed : ∀ surveyor type, surveyor ≠ mover → ¬(progresses surveyor).Owes name type)
    (idle : ∀ type, ¬moved.Owes name type) (surveyor : Surveyor) (type : FieldType) :
    ¬(Function.update progresses mover moved surveyor).Owes name type := by
  by_cases moves : surveyor = mover
  · subst moves
    simpa using idle type
  · simpa [Function.update_of_ne moves] using unowed surveyor type moves

section

variable {surveyor : Surveyor} {front : String} {value : Json} {rest : List (String × Json)}
  {found : Bool}

/-- Marking a rejected field decides its name and no other. -/
theorem Fate.reject (fate : Fate surveys sets configuration events name)
    (unknown : configuration.sets.isKnown front = false)
    (here : configuration.surveys surveyor = ⟨.mark .rejected, (front, value) :: rest, found⟩)
    (sound : (configuration.surveys surveyor).Sound (surveys surveyor)) :
    Fate surveys sets
      { configuration with
        sets := configuration.sets.markKnown front
        surveys := Function.update configuration.surveys surveyor ⟨.look, rest, found⟩ }
      (events ++ [.survey surveyor (.mark front true)]) name := by
  rw [here] at sound
  by_cases same : front = name
  · subst same
    obtain ⟨fresh, unclaimed, unadded, unowed⟩ := fate.of_unknown unknown
    have verdict := sound.judged .rejected front value rest rfl rfl
    refine .rejected (show Claimed _ _ _ _ front surveyor value from ⟨fresh, ?_, ?_, ?_⟩)
      verdict ?_ ?_
    · simp
    · simp [winners_append, unclaimed, Event.winner?]
    · exact sound.held (front, value) List.mem_cons_self
    · exact (additionsOf_append_of_none rfl).trans unadded
    · exact not_owes_update (fun other type _ => unowed other type)
        fun type => Progress.not_owes_look
  · refine fate.frame ?_ ?_ (additionsOf_append_of_none rfl) (owes_update_iff fun type => ?_)
    · simp [same]
    · simp [Event.winner?, same]
    · rw [here]
      simp [Progress.not_owes_look, Progress.not_owes_mark]

/-- Marking an admitted field leaves its winner, and nobody else, with an addition to make. -/
theorem Fate.win (fate : Fate surveys sets configuration events name) {type : FieldType}
    (unknown : configuration.sets.isKnown front = false)
    (here : configuration.surveys surveyor =
      ⟨.mark (.admitted type), (front, value) :: rest, found⟩)
    (sound : (configuration.surveys surveyor).Sound (surveys surveyor)) :
    Fate surveys sets
      { configuration with
        sets := configuration.sets.markKnown front
        surveys := Function.update configuration.surveys surveyor
          ⟨.add type, (front, value) :: rest, found⟩ }
      (events ++ [.survey surveyor (.mark front true)]) name := by
  rw [here] at sound
  by_cases same : front = name
  · subst same
    obtain ⟨fresh, unclaimed, unadded, unowed⟩ := fate.of_unknown unknown
    have verdict := sound.judged (.admitted type) front value rest rfl rfl
    refine .owed (show Claimed _ _ _ _ front surveyor value from ⟨fresh, ?_, ?_, ?_⟩)
      verdict ?_ ?_
    · simp
    · simp [winners_append, unclaimed, Event.winner?]
    · exact sound.held (front, value) List.mem_cons_self
    · exact (additionsOf_append_of_none rfl).trans unadded
    · intro other otherType
      by_cases moves : other = surveyor
      · subst moves
        simp [Progress.owes_add_iff, eq_comm]
      · simp [moves, unowed other otherType]
  · refine fate.frame ?_ ?_ (additionsOf_append_of_none rfl) (owes_update_iff fun otherType => ?_)
    · simp [same]
    · simp [Event.winner?, same]
    · rw [here]
      simp [Progress.owes_add_iff, Progress.not_owes_mark, same]

/-- Whoever adds a field is its winner and adds it for the first time. -/
theorem Fate.add (fate : Fate surveys sets configuration events name) {type : FieldType}
    (here : configuration.surveys surveyor = ⟨.add type, (front, value) :: rest, found⟩) :
    Fate surveys sets
      { configuration with
        sets := configuration.sets.addPending front type
        surveys := Function.update configuration.surveys surveyor ⟨.look, rest, true⟩ }
      (events ++ [.survey surveyor (.add front type)]) name := by
  by_cases same : front = name
  · subst same
    have owes : (configuration.surveys surveyor).Owes front type := by
      rw [here]
      exact Progress.owes_add_iff.2 ⟨rfl, rfl⟩
    obtain ⟨⟨held, claimed, verdict⟩, unadded, alone⟩ := fate.of_owes owes
    refine .added (show Claimed _ _ _ _ front surveyor held from
      ⟨claimed.fresh, claimed.known, ?_, claimed.held⟩) verdict ?_ ?_
    · simpa [winners_append, Event.winner?] using claimed.won
    · simp [additionsOf_append, Event.addition?, unadded]
    · exact not_owes_update (fun other otherType moves owing => moves (alone other otherType owing))
        fun type => Progress.not_owes_look
  · refine fate.frame rfl rfl ?_ (owes_update_iff fun otherType => ?_)
    · simp [additionsOf_append, Event.addition?, same]
    · rw [here]
      simp [Progress.owes_add_iff, Progress.not_owes_look, same]

end

/-- One operation of a survey takes every name from one fate to the next. -/
theorem Fate.survey (fate : Fate surveys sets configuration events name) {surveyor : Surveyor}
    (sound : (configuration.surveys surveyor).Sound (surveys surveyor))
    {operation : SurveyOperation} {nextSets : Discoveries} {progress : Progress}
    (step : SurveyStep (surveys surveyor) configuration.sets (configuration.surveys surveyor)
      operation nextSets progress) :
    Fate surveys sets
      { configuration with
        sets := nextSets
        surveys := Function.update configuration.surveys surveyor progress }
      (events ++ [.survey surveyor operation]) name := by
  generalize here : configuration.surveys surveyor = before at step
  cases step with
  | pass | postpone | judge | lose =>
    refine fate.frame rfl rfl (additionsOf_append_of_none rfl) (owes_update_iff fun type => ?_)
    rw [here]
    simp [Progress.not_owes_look, Progress.not_owes_mark]
  | reject unknown => exact fate.reject unknown here sound
  | win unknown => exact fate.win unknown here sound
  | add => exact fate.add here

variable [DecidableEq Drainer]

/-- Every survey of a run knows its record. -/
theorem Run.sound (run : Run surveys sets configuration events) (surveyor : Surveyor) :
    (configuration.surveys surveyor).Sound (surveys surveyor) := by
  induction run with
  | start => exact .start (surveys surveyor)
  | step prior step ih =>
    cases step with
    | drain drainer step => exact ih
    | survey mover step =>
      by_cases moves : surveyor = mover
      · subst moves
        simpa using step.sound ih
      · simpa [Function.update_of_ne moves] using ih

/-- Every name of a run has a fate. -/
theorem Run.fate (run : Run surveys sets configuration events) (name : String) :
    Fate surveys sets configuration events name := by
  induction run with
  | start => exact .untouched rfl rfl rfl fun _ _ => Progress.not_owes_look
  | step prior step ih =>
    cases step with
    | drain drainer step =>
      exact ih.frame (step.isKnown_eq name) rfl (additionsOf_append_of_none rfl)
        fun _ _ => Iff.rfl
    | survey surveyor step => exact ih.survey (prior.sound surveyor) step

end

end Intake.Interleaving
