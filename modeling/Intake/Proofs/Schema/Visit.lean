import Intake.Schema.Discovery

/-!
# What one record does to the sets

A visit of a field concerns the name of that field alone, and the names of a record are distinct. So
the effect of a whole record is known name by name: whether the name becomes known, whether it
becomes pending and with which type, and what the answer says.
-/

namespace Intake.Discoveries

/-- The verdict makes the name known. -/
def Verdict.decides : Verdict → Bool
  | undecided => false
  | _ => true

/-- The type that the verdict makes pending. -/
def Verdict.type? : Verdict → Option FieldType
  | admitted type => some type
  | _ => none

@[simp] theorem find?_pending_addPending (state : Discoveries) (name other : String)
    (type : FieldType) : (state.addPending name type).pending.find? other =
      if name = other then some type else state.pending.find? other :=
  NameMap.find?_insert state.pending name other type

variable {filter : KeyFilter} {reader : LayoutReader} {state : Discoveries}

section

variable {name : String} {value : Json}

/-- A visited name is known if it was or if the verdict decides it. -/
theorem isKnown_visit_self : (state.visit filter reader name value).2.isKnown name =
    (state.isKnown name || (verdict filter reader name value).decides) := by
  unfold visit
  cases known : state.isKnown name with
  | true => simp [known]
  | false => cases verdict filter reader name value <;> simp [known, Verdict.decides]

/-- A name that was known stays as it was; any other becomes pending if the verdict admits it. -/
theorem find?_pending_visit_self :
    (state.visit filter reader name value).2.pending.find? name =
      if state.isKnown name then state.pending.find? name
      else (verdict filter reader name value).type?.or (state.pending.find? name) := by
  unfold visit
  cases state.isKnown name with
  | true => simp
  | false => cases verdict filter reader name value <;> simp [Verdict.type?]

/-- A visit answers whether it made the name pending. -/
theorem visit_fst : (state.visit filter reader name value).1 = true ↔
    state.isKnown name = false ∧ ∃ type, (verdict filter reader name value).type? = some type := by
  unfold visit
  cases state.isKnown name with
  | true => simp
  | false => cases verdict filter reader name value <;> simp [Verdict.type?]

/-- A visit of one name decides no other. -/
theorem isKnown_visit_of_ne {other : String} (differs : name ≠ other) :
    (state.visit filter reader name value).2.isKnown other = state.isKnown other := by
  unfold visit
  cases state.isKnown name with
  | true => rfl
  | false => cases verdict filter reader name value <;> simp [differs]

/-- A visit of one name makes no other pending. -/
theorem find?_pending_visit_of_ne {other : String} (differs : name ≠ other) :
    (state.visit filter reader name value).2.pending.find? other = state.pending.find? other := by
  unfold visit
  cases state.isKnown name with
  | true => rfl
  | false => cases verdict filter reader name value <;> simp [differs]

end

/-- A name above all entries is not among them. -/
theorem entryAt?_eq_none_of_above {name : String} {entries : List (String × Json)}
    (above : ∀ entry ∈ entries, name < entry.1) : entryAt? name entries = none := by
  induction entries with
  | nil => rfl
  | cons first rest ih =>
    have differs : ¬first.1 = name := fun same =>
      String.lt_irrefl name (same ▸ above first List.mem_cons_self)
    simp only [entryAt?, differs, if_false]
    exact ih fun entry inside => above entry (List.mem_cons_of_mem _ inside)

/-- After a record a name is known if it was or if the verdict on its value decides it. -/
theorem isKnown_visitAll {entries : List (String × Json)} (ascending : Ascending entries)
    (other : String) : (visitAll filter reader state entries).2.isKnown other =
      (state.isKnown other ||
        (entryAt? other entries).any fun value => (verdict filter reader other value).decides) := by
  induction entries generalizing state with
  | nil => simp [visitAll, entryAt?]
  | cons first rest ih =>
    obtain ⟨name, value⟩ := first
    obtain ⟨above, tail⟩ := List.pairwise_cons.1 ascending
    simp only [visitAll, ih tail, entryAt?]
    by_cases same : name = other
    · subst same
      simp [entryAt?_eq_none_of_above above, isKnown_visit_self]
    · simp [same, isKnown_visit_of_ne same]

/-- After a record a name is pending as it was, or as the verdict on its value admits it. -/
theorem find?_pending_visitAll {entries : List (String × Json)} (ascending : Ascending entries)
    (other : String) : (visitAll filter reader state entries).2.pending.find? other =
      if state.isKnown other then state.pending.find? other
      else ((entryAt? other entries).bind fun value => (verdict filter reader other value).type?).or
        (state.pending.find? other) := by
  induction entries generalizing state with
  | nil => simp [visitAll, entryAt?]
  | cons first rest ih =>
    obtain ⟨name, value⟩ := first
    obtain ⟨above, tail⟩ := List.pairwise_cons.1 ascending
    simp only [visitAll, ih tail, entryAt?]
    by_cases same : name = other
    · subst same
      simp [entryAt?_eq_none_of_above above, find?_pending_visit_self]
    · simp [same, isKnown_visit_of_ne same, find?_pending_visit_of_ne same]

/-- A record answers whether it made some name pending. -/
theorem visitAll_fst {entries : List (String × Json)} (ascending : Ascending entries) :
    (visitAll filter reader state entries).1 = true ↔
      ∃ name value type, (name, value) ∈ entries ∧ state.isKnown name = false ∧
        (verdict filter reader name value).type? = some type := by
  induction entries generalizing state with
  | nil => simp [visitAll]
  | cons first rest ih =>
    obtain ⟨name, value⟩ := first
    obtain ⟨above, tail⟩ := List.pairwise_cons.1 ascending
    simp only [visitAll, Bool.or_eq_true, visit_fst, ih tail]
    -- Later names differ from the first, so that visiting it makes no difference to them.
    have unchanged : ∀ {other held}, (other, held) ∈ rest →
        (state.visit filter reader name value).2.isKnown other = state.isKnown other := by
      intro other held inside
      refine isKnown_visit_of_ne fun same => ?_
      exact String.lt_irrefl other (same ▸ above (other, held) inside)
    constructor
    · rintro (⟨unknown, type, admitted⟩ | ⟨other, held, type, inside, unknown, admitted⟩)
      · exact ⟨name, value, type, List.mem_cons_self, unknown, admitted⟩
      · exact ⟨other, held, type, List.mem_cons_of_mem _ inside, unchanged inside ▸ unknown,
          admitted⟩
    · rintro ⟨other, held, type, inside, unknown, admitted⟩
      rcases List.mem_cons.1 inside with front | later
      · obtain ⟨rfl, rfl⟩ := Prod.mk.inj front
        exact .inl ⟨unknown, type, admitted⟩
      · exact .inr ⟨other, held, type, later, (unchanged later).trans unknown, admitted⟩

end Intake.Discoveries
