import Intake.Schema.Detect
import Intake.Schema.KeyFilter

/-!
# Discovering fields

A field becomes known when a decision about it is made: it was seeded, it was rejected by the
filter, or its type was recognised. Of the recognised ones those that were new are pending until
they are drained. A field without a type stays undecided and is looked at again.

The discovery of one record is a sequence of steps on the two sets, one per field, so that several
discoveries can be interleaved.
-/

namespace Intake

/-- A new field and its type. -/
structure NewField where
  name : String
  type : FieldType
  deriving DecidableEq, Repr

/-- The names that are decided, and the fields that are pending. -/
structure Discoveries where
  known : NameMap Unit := .empty
  pending : NameMap FieldType := .empty

namespace Discoveries

/-- A name is decided. -/
def isKnown (state : Discoveries) (name : String) : Bool := state.known.contains name

/-- Mark a name as decided. -/
def markKnown (state : Discoveries) (name : String) : Discoveries :=
  { state with known := state.known.insert name () }

/-- Mark names as decided. -/
def seed (state : Discoveries) (names : List String) : Discoveries := names.foldl markKnown state

/-- Add a pending field. -/
def addPending (state : Discoveries) (name : String) (type : FieldType) : Discoveries :=
  { state with pending := state.pending.insert name type }

@[simp] theorem isKnown_markKnown (state : Discoveries) (name other : String) :
    (state.markKnown name).isKnown other = (decide (name = other) || state.isKnown other) :=
  NameMap.contains_insert state.known name other ()

@[simp] theorem pending_markKnown (state : Discoveries) (name : String) :
    (state.markKnown name).pending = state.pending := rfl

@[simp] theorem isKnown_addPending (state : Discoveries) (name other : String) (type : FieldType) :
    (state.addPending name type).isKnown other = state.isKnown other := rfl

@[simp] theorem isKnown_seed (state : Discoveries) (names : List String) (other : String) :
    (state.seed names).isKnown other = (decide (other ∈ names) || state.isKnown other) := by
  unfold seed
  induction names generalizing state with
  | nil => simp
  | cons name rest ih =>
    rw [List.foldl_cons, ih]
    by_cases same : name = other
    · simp [same]
    · simp [same, Ne.symm same]

@[simp] theorem pending_seed (state : Discoveries) (names : List String) :
    (state.seed names).pending = state.pending := by
  unfold seed
  induction names generalizing state with
  | nil => rfl
  | cons name rest ih => rw [List.foldl_cons, ih, pending_markKnown]

/-- The pending fields in order. -/
def pendingFields (state : Discoveries) : List NewField :=
  state.pending.entries.map fun entry => { name := entry.1, type := entry.2 }

/-- Take the pending fields. -/
def drain (state : Discoveries) : List NewField × Discoveries :=
  (state.pendingFields, { state with pending := .empty })

@[simp] theorem isKnown_drain (state : Discoveries) (name : String) :
    state.drain.2.isKnown name = state.isKnown name := rfl

@[simp] theorem pending_drain (state : Discoveries) : state.drain.2.pending = .empty := rfl

/-- What is decided about a field that is not known. -/
inductive Verdict where
  /-- The filter rejects the field. -/
  | rejected
  /-- The field has no type yet. -/
  | undecided
  /-- The field is new. -/
  | admitted (type : FieldType)
  deriving DecidableEq, Repr

/-- The verdict on a field by its name and value. -/
def verdict (filter : KeyFilter) (reader : LayoutReader) (name : String) (value : Json) : Verdict :=
  if filter.admits name then
    match value.detectType reader with
    | .unknown => .undecided
    | type => .admitted type
  else .rejected

theorem verdict_eq_rejected_iff {filter : KeyFilter} {reader : LayoutReader} {name : String}
    {value : Json} : verdict filter reader name value = .rejected ↔ filter.admits name = false := by
  unfold verdict
  cases filter.admits name with
  | false => simp
  | true => cases value.detectType reader <;> simp

theorem verdict_eq_admitted_iff {filter : KeyFilter} {reader : LayoutReader} {name : String}
    {value : Json} {type : FieldType} : verdict filter reader name value = .admitted type ↔
      filter.admits name = true ∧ value.detectType reader = type ∧ type ≠ .unknown := by
  unfold verdict
  cases filter.admits name with
  | false => simp
  | true => cases value.detectType reader <;> cases type <;> simp

/-- Look at one field: the answer says whether it became pending. -/
def visit (filter : KeyFilter) (reader : LayoutReader) (state : Discoveries) (name : String)
    (value : Json) : Bool × Discoveries :=
  if state.isKnown name then (false, state)
  else
    match verdict filter reader name value with
    | .rejected => (false, state.markKnown name)
    | .undecided => (false, state)
    | .admitted type => (true, (state.markKnown name).addPending name type)

/-- Look at fields in order. -/
def visitAll (filter : KeyFilter) (reader : LayoutReader) :
    Discoveries → List (String × Json) → Bool × Discoveries
  | state, [] => (false, state)
  | state, (name, value) :: rest =>
    let (first, state) := state.visit filter reader name value
    let (others, state) := visitAll filter reader state rest
    (first || others, state)

/-- Look at all fields of a record: the answer says whether any became pending. -/
def discover (filter : KeyFilter) (reader : LayoutReader) (state : Discoveries) (record : Record) :
    Bool × Discoveries :=
  visitAll filter reader state record.entries

end Discoveries

end Intake
