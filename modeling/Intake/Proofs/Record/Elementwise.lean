import Intake.Proofs.Record.Inference
import Intake.Proofs.Record.Repeatability

/-!
# Arrays against scalar getters

An array is read by rules of its own for its elements, with a default in place of null. They are the
rules of the scalar getters: `Record.getArray_elementwise` says that an array has, in order, the
values that the getter of the element type reads from the elements one by one, each as the only
field of a record that may not be null. Date-times share what is remembered for the field, so each
element is read with the layout that the elements before it left behind.
-/

namespace Intake

/-- The values of an array in order, as values of columns. -/
def ColumnArray.entries : ColumnArray → List ColumnValue
  | ints values => values.map .int
  | floats values => values.map .float
  | strings values => values.map .string
  | dateTimes values => values.map .dateTime

namespace Remembering

variable {α β : Type} (action : α → Remembering β)

/-- What is remembered after an action on each item in turn. -/
def after (items : List α) (cache : LayoutCache) : LayoutCache :=
  items.foldl (fun cache item => (action item cache).2) cache

theorem mapM_cons_apply (item : α) (rest : List α) (cache : LayoutCache) :
    (item :: rest).mapM action cache =
      ((action item cache).1 :: (rest.mapM action (action item cache).2).1,
        (rest.mapM action (action item cache).2).2) := by
  rw [List.mapM_cons]
  rfl

theorem snd_mapM (items : List α) (cache : LayoutCache) :
    (items.mapM action cache).2 = after action items cache := by
  induction items generalizing cache with
  | nil => rfl
  | cons item rest ih => rw [mapM_cons_apply, ih, after, after, List.foldl_cons]

/-- Each item is met with what the items before it left behind. -/
theorem getElem?_mapM {items : List α} {position : Nat} {item : α}
    (there : items[position]? = some item) (cache : LayoutCache) :
    (items.mapM action cache).1[position]? =
      some (action item (after action (items.take position) cache)).1 := by
  induction items generalizing position cache with
  | nil => cases there
  | cons first rest ih =>
    rw [mapM_cons_apply]
    cases position with
    | zero =>
      cases there
      rfl
    | succ position => exact ih there _

theorem length_mapM (items : List α) (cache : LayoutCache) :
    (items.mapM action cache).1.length = items.length := by
  induction items generalizing cache with
  | nil => rfl
  | cons item rest ih => rw [mapM_cons_apply, List.length_cons, ih, List.length_cons]

end Remembering

namespace Record

variable (context : ReadContext) (record : Record) (key : String)

/-- The getter of a scalar type, for a field that may not be null. -/
def getScalar (type : ScalarType) : Remembering ColumnValue :=
  match type with
  | .int => pure (.ofOption .int (record.getInt key false))
  | .float => pure (.ofOption .float (record.getFloat key false))
  | .string => pure (.ofOption .string (record.getString key false))
  | .dateTime => return .ofOption .dateTime (← record.getDateTime context key false)

/-- A value without a default of its own has the zero of its type. -/
theorem orDefault_false {α : Type} (zero : α) (value : Option α) :
    orDefault false zero value = some (value.getD zero) := by
  cases value <;> rfl

/-- The getter of an element type reads an element as the array does. -/
theorem getScalar_single (element : ScalarType) (item : Json) (cache : LayoutCache) :
    (single key item).getScalar context key element cache =
      match element with
      | .int => (.int item.elementInt, cache)
      | .float => (.float (item.toFloat?.getD 0.0), cache)
      | .string => (.string item.elementText, cache)
      | .dateTime => (.dateTime ((item.toInstant? context key cache).1.getD context.epoch),
          (item.toInstant? context key cache).2) := by
  cases element with
  | int =>
    rw [Json.elementInt_eq]
    simp only [getScalar, getInt, find?_single, Option.bind_some, orDefault_false]
    rfl
  | float =>
    simp only [getScalar, getFloat, find?_single, Option.bind_some, orDefault_false]
    rfl
  | string =>
    rw [Json.elementText_eq]
    simp only [getScalar, getString, find?_single, Option.bind_some, orDefault_false]
    rfl
  | dateTime =>
    simp only [getScalar, Remembering.bind_apply,
      getDateTime_of_find? (find?_single key item), orDefault_false]
    rfl

/-- An array is read as its elements are by the getter of the element type, one after the other. -/
theorem entries_getArray (element : ScalarType) (cache : LayoutCache) :
    ((record.getArray context key element cache).1.entries,
        (record.getArray context key element cache).2) =
      (record.elements key).mapM
        (fun item => (single key item).getScalar context key element) cache := by
  have each (items : List Json) (cache : LayoutCache) :
      ((instants context key items cache).1.map ColumnValue.dateTime,
          (instants context key items cache).2) =
        items.mapM (fun item => (single key item).getScalar context key .dateTime) cache := by
    induction items generalizing cache with
    | nil => rfl
    | cons item rest ih =>
      rw [Remembering.mapM_cons_apply, getScalar_single, ← ih]
      rfl
  have pure_each (entry : Json → ColumnValue) (items : List Json)
      (reads : ∀ item cache, (single key item).getScalar context key element cache =
        (entry item, cache)) :
      (items.map entry, cache) =
        items.mapM (fun item => (single key item).getScalar context key element) cache := by
    induction items with
    | nil => rfl
    | cons item rest ih =>
      rw [Remembering.mapM_cons_apply, reads, ← ih, List.map_cons]
  cases element with
  | dateTime => exact each (record.elements key) cache
  | int | float | string =>
    rw [← pure_each _ (record.elements key) fun item cache => getScalar_single ..]
    exact congrArg (Prod.mk · cache) (List.map_map ..)

/-- A field that is an array has a value for each of its elements, in order.

The value of an element is what the getter of the element type reads from a record that has the
element as its only field, where the field may not be null and where what is remembered is what the
elements before it left behind. In the end that is remembered which reading all the elements in turn
leaves behind. A field that is missing or no array has no values, and nothing new is remembered. -/
theorem getArray_elementwise (element : ScalarType) (cache : LayoutCache) :
    let getter := fun item : Json => (single key item).getScalar context key element
    ∃ values after,
      (record.getArrayOf context key (.scalar element)).run cache = (.ok values, after) ∧
      values.element = element ∧
      (∀ items, record.find? key = some (.array items) →
        values.entries.length = items.length ∧
        (∀ position item, items[position]? = some item →
          values.entries[position]? =
            some (getter item (Remembering.after getter (items.take position) cache)).1) ∧
        after = Remembering.after getter items cache) ∧
      ((∀ items, record.find? key ≠ some (.array items)) →
        values.entries = [] ∧ after = cache) := by
  intro getter
  have isEntries : (record.getArray context key element cache).1.entries =
      ((record.elements key).mapM getter cache).1 :=
    congrArg Prod.fst (record.entries_getArray context key element cache)
  have isAfter : (record.getArray context key element cache).2 =
      ((record.elements key).mapM getter cache).2 :=
    congrArg Prod.snd (record.entries_getArray context key element cache)
  refine ⟨(record.getArray context key element cache).1,
    (record.getArray context key element cache).2, rfl,
    element_getArray context record key element cache, fun items held => ?_, fun noArray => ?_⟩
  · have elements : record.elements key = items := by simp only [elements, held]
    rw [isEntries, isAfter, elements]
    exact ⟨Remembering.length_mapM getter items cache,
      fun position item there => Remembering.getElem?_mapM getter there cache,
      Remembering.snd_mapM getter items cache⟩
  · have elements : record.elements key = [] := by
      unfold elements
      split
      · rename_i items held
        exact absurd held (noArray items)
      · rfl
    rw [isEntries, isAfter, elements]
    exact ⟨rfl, rfl⟩

end Record

end Intake
