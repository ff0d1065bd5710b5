import Intake.Proofs.Schema.Fate
import Mathlib.Algebra.BigOperators.Group.Finset.Piecewise
import Mathlib.Algebra.Order.Group.Multiset

/-!
# What becomes of added fields

The fields that drains hand over and those still pending are, with repetition, the fields pending at
the start and the fields that were added: no order of the operations loses or doubles one. So a name
that anybody ever saw pending was pending at the start or was added since.
-/

namespace Intake

/-- Every pending name is known, as it is while nothing is pending. -/
def Discoveries.PendingKnown (state : Discoveries) : Prop :=
  ∀ name, state.pending.contains name = true → state.isKnown name = true

namespace Discoveries

theorem PendingKnown.of_empty {state : Discoveries} (none : state.pending = .empty) :
    state.PendingKnown := by
  intro name pending
  simp [none] at pending

theorem mem_pendingFields_iff {state : Discoveries} {field : NewField} :
    field ∈ state.pendingFields ↔ state.pending.find? field.name = some field.type := by
  rw [NameMap.find?_eq_some_iff, pendingFields, List.mem_map]
  constructor
  · rintro ⟨entry, inside, rfl⟩
    exact inside
  · intro inside
    exact ⟨(field.name, field.type), inside, rfl⟩

/-- Pending fields are in strictly ascending order of their names. -/
theorem pendingFields_ascending (state : Discoveries) :
    state.pendingFields.Pairwise fun left right => left.name < right.name :=
  List.pairwise_map.2 state.pending.ascending

theorem pendingFields_addPending_perm {state : Discoveries} {name : String} (type : FieldType)
    (absent : state.pending.find? name = none) :
    (state.addPending name type).pendingFields.Perm
      ({ name := name, type := type } :: state.pendingFields) :=
  (insertEntry_perm absent).map _

theorem perm_pendingFields_removePending {state : Discoveries} {name : String} {type : FieldType}
    (held : state.pending.find? name = some type) :
    state.pendingFields.Perm
      ({ name := name, type := type } :: (state.removePending name).pendingFields) :=
  (perm_eraseEntry held).map _

end Discoveries

namespace Interleaving

theorem Draining.coe_result (draining : Draining) :
    (draining.result : Multiset NewField) = draining.taken :=
  Multiset.coe_eq_coe.2 (List.mergeSort_perm _ _)

variable {Surveyor Drainer : Type}

/-- The fields that drains hand over together with those still pending. -/
def Configuration.gathered [Fintype Drainer] (configuration : Configuration Surveyor Drainer) :
    Multiset NewField :=
  ∑ drainer, ((configuration.drains drainer).result : Multiset NewField) +
    (configuration.sets.pendingFields : Multiset NewField)

/-- An event shows that a name is among the pending ones. -/
def Event.Shows (name : String) : Event Surveyor Drainer → Prop
  | .survey _ (.add other _) => other = name
  | .drain _ (.list other) => other = name
  | .drain _ (.remove other (some _)) => other = name
  | _ => False

section

variable {surveys : Surveyor → Survey} {sets : Discoveries}
  {configuration next : Configuration Surveyor Drainer}
  {events : List (Event Surveyor Drainer)} {name : String}

theorem mem_additionsOf_iff {addition : Surveyor × NewField} :
    addition ∈ additionsOf events name ↔ addition ∈ additions events ∧ addition.2.name = name := by
  simp [additionsOf]

/-- The additions of one name are what the additions hold under that name. -/
theorem filter_map_additions (events : List (Event Surveyor Drainer)) (name : String) :
    Multiset.filter (fun field : NewField => field.name = name)
        ((additions events).map Prod.snd : Multiset NewField) =
      (additionsOf events name).map Prod.snd := by
  rw [Multiset.filter_coe, List.filter_map]
  rfl

/-- A field that was pending at the start or added since has a name that was known from the start or
added since. -/
theorem known_or_added (settled : sets.PendingKnown) {field : NewField}
    (recorded : field ∈ (sets.pendingFields : Multiset NewField) +
      ((additions events).map Prod.snd : List NewField)) :
    sets.isKnown field.name = true ∨ additionsOf events field.name ≠ [] := by
  rcases Multiset.mem_add.1 recorded with early | later
  · left
    apply settled
    simp [NameMap.contains, Discoveries.mem_pendingFields_iff.1 early]
  · right
    obtain ⟨addition, added, rfl⟩ := List.mem_map.1 later
    exact List.ne_nil_of_mem (mem_additionsOf_iff.2 ⟨added, rfl⟩)

variable [Fintype Drainer]

/-- An operation of a survey adds what its event says. -/
theorem gathered_survey {surveyor : Surveyor} {operation : SurveyOperation}
    {progress : Surveyor → Progress} {nextSets : Discoveries}
    (step : SurveyStep (surveys surveyor) configuration.sets (configuration.surveys surveyor)
      operation nextSets (progress surveyor))
    (absent : ∀ name type, (configuration.surveys surveyor).Owes name type →
      configuration.sets.pending.find? name = none) :
    Configuration.gathered { configuration with sets := nextSets, surveys := progress } =
      configuration.gathered +
        ((.survey surveyor operation : Event Surveyor Drainer).addition?.toList.map Prod.snd :
          List NewField) := by
  unfold Configuration.gathered
  generalize here : configuration.surveys surveyor = before at step absent
  generalize progress surveyor = after at step
  cases step with
  | pass | postpone | judge | lose | reject | win => exact (add_zero _).symm
  | @add type name value rest found =>
    have missing := absent name type (Progress.owes_add_iff.2 ⟨rfl, rfl⟩)
    rw [Multiset.coe_eq_coe.2 (Discoveries.pendingFields_addPending_perm type missing),
      ← Multiset.cons_coe, ← Multiset.singleton_add, add_assoc,
      add_comm (configuration.sets.pendingFields : Multiset NewField)]
    rfl

variable [DecidableEq Drainer]

/-- When one drain takes more, all drains together take so much more. -/
theorem sum_result_update (drains : Drainer → Draining) (drainer : Drainer) {draining : Draining}
    {extra : Multiset NewField}
    (more : (draining.result : Multiset NewField) = (drains drainer).result + extra) :
    ∑ other, ((Function.update drains drainer draining other).result : Multiset NewField) =
      ∑ other, ((drains other).result : Multiset NewField) + extra := by
  have moved : (fun other => ((Function.update drains drainer draining other).result :
        Multiset NewField)) =
      Function.update (fun other => ((drains other).result : Multiset NewField)) drainer
        draining.result := by
    funext other
    by_cases same : other = drainer
    · subst same
      simp
    · simp [Function.update_of_ne same]
  rw [moved, Finset.sum_update_of_mem (Finset.mem_univ drainer), more, add_right_comm,
    ← Finset.erase_eq, Finset.add_sum_erase Finset.univ
      (fun other => ((drains other).result : Multiset NewField)) (Finset.mem_univ drainer)]

/-- An operation of a drain moves fields from the pending ones to those handed over. -/
theorem gathered_drain {drainer : Drainer} {operation : DrainOperation} {nextSets : Discoveries}
    {draining : Draining}
    (step : DrainStep configuration.sets (configuration.drains drainer) operation nextSets
      draining) :
    Configuration.gathered
      { configuration with
        sets := nextSets
        drains := Function.update configuration.drains drainer draining } =
      configuration.gathered := by
  have idle : ∀ {draining : Draining}, draining.taken = (configuration.drains drainer).taken →
      (draining.result : Multiset NewField) = (configuration.drains drainer).result + 0 := by
    intro draining same
    rw [Draining.coe_result, Draining.coe_result, same, add_zero]
  unfold Configuration.gathered
  generalize here : configuration.drains drainer = before at step
  cases step with
  | list | close | miss =>
    rw [sum_result_update configuration.drains drainer (idle (by rw [here])), add_zero]
  | @take name type rest taken held =>
    have more : (Draining.result ⟨false, rest, taken ++ [{ name := name, type := type }]⟩ :
        Multiset NewField) =
        (configuration.drains drainer).result + {({ name := name, type := type } : NewField)} := by
      rw [Draining.coe_result, Draining.coe_result, here, ← Multiset.coe_add]
      rfl
    rw [sum_result_update configuration.drains drainer more, add_assoc,
      Multiset.coe_eq_coe.2 (Discoveries.perm_pendingFields_removePending held),
      Multiset.singleton_add]
    rfl

variable [DecidableEq Surveyor]

/-- A name that somebody owes was never pending: it was unknown at the start, and nobody has added
it yet. -/
theorem Run.absent_of_owes (run : Run surveys sets configuration events)
    (settled : sets.PendingKnown)
    (account : configuration.gathered =
      (sets.pendingFields : Multiset NewField) + ((additions events).map Prod.snd : List NewField))
    {surveyor : Surveyor} {type : FieldType}
    (owes : (configuration.surveys surveyor).Owes name type) :
    configuration.sets.pending.find? name = none := by
  obtain ⟨⟨_, claimed, _⟩, unadded, _⟩ := (run.fate name).of_owes owes
  rw [Option.eq_none_iff_forall_ne_some]
  intro held pending
  have inside : ({ name := name, type := held } : NewField) ∈ configuration.gathered :=
    Multiset.mem_add.2 (.inr (Discoveries.mem_pendingFields_iff.2 pending))
  rcases known_or_added settled (account ▸ inside) with known | added
  · exact absurd known (by simp [claimed.fresh])
  · exact added unadded

/-- The fields handed over and pending are those pending at the start and those added. -/
theorem Run.gathered_eq (run : Run surveys sets configuration events)
    (settled : sets.PendingKnown) :
    configuration.gathered =
      (sets.pendingFields : Multiset NewField) +
        ((additions events).map Prod.snd : List NewField) := by
  induction run with
  | start => simp [Configuration.gathered, Configuration.start, Draining.coe_result,
      Draining.start, additions]
  | step prior step ih =>
    rw [additions_append, List.map_append, ← Multiset.coe_add, ← add_assoc, ← ih]
    cases step with
    | drain drainer step => exact (gathered_drain step).trans (add_zero _).symm
    | survey surveyor step =>
      refine gathered_survey (by simpa using step) fun name type owes => ?_
      exact prior.absent_of_owes settled ih owes

/-- A pending field was pending at the start or was added in the run. -/
theorem Run.known_or_added_of_pending (run : Run surveys sets configuration events)
    (settled : sets.PendingKnown) (pending : configuration.sets.pending.contains name = true) :
    sets.isKnown name = true ∨ additionsOf events name ≠ [] := by
  obtain ⟨type, held⟩ := Option.isSome_iff_exists.1 pending
  have inside : ({ name := name, type := type } : NewField) ∈ configuration.gathered :=
    Multiset.mem_add.2 (.inr (Discoveries.mem_pendingFields_iff.2 held))
  exact known_or_added settled (run.gathered_eq settled ▸ inside)

/-- Whatever an event shows as pending was pending at the start or was added in the run. -/
theorem Run.known_or_added_of_shows (run : Run surveys sets configuration events)
    (settled : sets.PendingKnown) {event : Event Surveyor Drainer} (inside : event ∈ events)
    (shows : event.Shows name) : sets.isKnown name = true ∨ additionsOf events name ≠ [] := by
  induction run with
  | start => exact absurd inside List.not_mem_nil
  | @step configuration next events last prior step ih =>
    have extend : sets.isKnown name = true ∨ additionsOf events name ≠ [] →
        sets.isKnown name = true ∨ additionsOf (events ++ [last]) name ≠ [] := by
      rintro (known | present)
      · exact .inl known
      · exact .inr (by simp [additionsOf_append, present])
    rcases List.mem_append.1 inside with earlier | latest
    · exact extend (ih earlier)
    obtain rfl := List.mem_singleton.1 latest
    cases step with
    | drain drainer step =>
      generalize configuration.drains drainer = before at step
      cases step with
      | list other pending =>
        obtain rfl : other = name := shows
        exact extend (prior.known_or_added_of_pending settled pending)
      | @take other type rest taken held =>
        obtain rfl : other = name := shows
        exact extend (prior.known_or_added_of_pending settled (by simp [NameMap.contains, held]))
      | close | miss => exact shows.elim
    | survey surveyor step =>
      generalize configuration.surveys surveyor = before at step
      cases step with
      | pass | postpone | judge | lose | reject | win => exact shows.elim
      | @add type other value rest found =>
        obtain rfl : other = name := shows
        exact .inr (by simp [additionsOf_append, Event.addition?])

end

end Interleaving

end Intake
