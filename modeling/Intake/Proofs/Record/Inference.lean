import Intake.Proofs.Layout.Reader
import Intake.Record.Basic
import Intake.Schema.Detect

/-!
# Inferred types and the getters

The type inferred for a value and the reading of the value go separate ways: inference scans the
layouts, while getters try the remembered layout first. `Record.detectType_agrees` says that the two
accept the same values, whatever is remembered, so that a column with the inferred type never reads
null or a default from the field that it was inferred from.
-/

namespace Intake

/-- The first value of an array, as a value of a column. -/
def ColumnArray.first? : ColumnArray → Option ColumnValue
  | ints values => values.head?.map .int
  | floats values => values.head?.map .float
  | strings values => values.head?.map .string
  | dateTimes values => values.head?.map .dateTime

/-- What a column of the type that may not be null has where its field has no value. -/
def ScalarType.zero (context : ReadContext) : ScalarType → ColumnValue
  | int => .int 0
  | float => .float 0.0
  | string => .string ""
  | dateTime => .dateTime context.epoch

/-- The record with one field. -/
def Record.single (key : String) (value : Json) : Record := NameMap.empty.insert key value

@[simp] theorem Record.find?_single (key : String) (value : Json) :
    (Record.single key value).find? key = some value := by
  simp [single]

namespace Json

/-- What a value is as a value of a scalar type, where it is one. -/
def toScalar? (context : ReadContext) (key : String) (type : ScalarType) (value : Json)
    (cache : LayoutCache) : Option ColumnValue :=
  match type with
  | .int => value.toInt?.map .int
  | .float => value.toFloat?.map .float
  | .string => value.toText?.map .string
  | .dateTime => (value.toInstant? context key cache).1.map .dateTime

/-- A value that is of a scalar type is not null. -/
theorem isNull_of_toScalar? {context : ReadContext} {key : String} {type : ScalarType}
    {value : Json} {cache : LayoutCache} {scalar : ColumnValue}
    (read : value.toScalar? context key type cache = some scalar) : scalar.isNull = false := by
  cases type <;> simp only [toScalar?, Option.map_eq_some_iff] at read <;>
    obtain ⟨_, -, rfl⟩ := read <;> rfl

variable {reader : LayoutReader} {context : ReadContext}

/-- Integers are inferred where a value has an integer. -/
theorem detectType_eq_int_iff {value : Json} :
    value.detectType reader = .scalar .int ↔ value.toInt?.isSome = true := by
  cases value with
  | null | object => simp [detectType, toInt?]
  | bool => simp [detectType, toInt?]
  | number value => cases number : value.toInt? <;> simp [detectType, toInt?, number]
  | string text =>
    cases recognised : reader.recognises text <;> simp [detectType, toInt?, recognised]
  | array items =>
    cases items with
    | nil => simp [detectType, toInt?]
    | cons first rest =>
      cases inner : first.detectType reader <;>
        simp [detectType, toInt?, inner, FieldType.arrayOf?]

/-- A text has an instant where some layout reads it, whatever is remembered. -/
theorem isSome_toInstant?_string (text key : String) (cache : LayoutCache) :
    ((string text).toInstant? context key cache).1.isSome = context.reader.recognises text := by
  by_cases given : text = ""
  · subst given
    rfl
  · rw [toInstant?_string given, LayoutReader.isSome_readField given]

/-- A text is inferred to be a date-time where it has an instant. -/
theorem detectType_string_eq_dateTime_iff {text key : String} {cache : LayoutCache} :
    (string text).detectType context.reader = .scalar .dateTime ↔
      ((string text).toInstant? context key cache).1.isSome = true := by
  rw [isSome_toInstant?_string]
  cases recognised : context.reader.recognises text <;> simp [detectType, recognised]

/-- A value of an inferred scalar type is of that type. -/
theorem isSome_toScalar?_of_detectType {value : Json} {type : ScalarType}
    (inferred : value.detectType context.reader = .scalar type) (key : String)
    (cache : LayoutCache) : (value.toScalar? context key type cache).isSome = true := by
  cases value with
  | null => simp [detectType] at inferred
  | bool value =>
    obtain rfl : ScalarType.int = type := FieldType.scalar.inj inferred
    rfl
  | number value =>
    simp only [detectType] at inferred
    split at inferred
    · rename_i integral
      obtain rfl := FieldType.scalar.inj inferred
      simpa [toScalar?, toInt?] using integral
    · obtain rfl := FieldType.scalar.inj inferred
      rfl
  | string text =>
    simp only [detectType] at inferred
    split at inferred
    · rename_i recognised
      obtain rfl := FieldType.scalar.inj inferred
      simpa [toScalar?, isSome_toInstant?_string] using recognised
    · obtain rfl := FieldType.scalar.inj inferred
      rfl
  | object =>
    obtain rfl : ScalarType.string = type := FieldType.scalar.inj inferred
    rfl
  | array items =>
    cases items with
    | nil => simp [detectType] at inferred
    | cons first rest =>
      cases inner : first.detectType context.reader <;>
        simp [detectType, inner, FieldType.arrayOf?] at inferred

/-- Arrays are inferred where the first element has a scalar type. -/
theorem detectType_eq_array_iff {value : Json} {element : ScalarType} :
    value.detectType reader = .array element ↔
      ∃ first rest, value = .array (first :: rest) ∧ first.detectType reader = .scalar element := by
  cases value with
  | null | bool | object => simp [detectType]
  | number value => cases number : value.toInt? <;> simp [detectType, number]
  | string text => cases recognised : reader.recognises text <;> simp [detectType, recognised]
  | array items =>
    cases items with
    | nil => simp [detectType]
    | cons first rest =>
      cases inner : first.detectType reader <;>
        simp [detectType, inner, FieldType.arrayOf?]

end Json

namespace Record

variable {context : ReadContext} {record : Record} {key : String} {value : Json}

/-- A field is read by layouts where it is there. -/
theorem fst_getDateTime (context : ReadContext) (record : Record) (key : String) (nullable : Bool)
    (cache : LayoutCache) : (record.getDateTime context key nullable cache).1 =
      orDefault nullable context.epoch
        ((record.find? key).bind fun value => (value.toInstant? context key cache).1) := by
  unfold getDateTime
  cases record.find? key <;> rfl

/-- A column of a scalar type reads what its field is as a value of the type. Where there is no such
field or no such value, it reads null or the zero of the type. -/
theorem fst_getValue {column : Column} {type : ScalarType} (scalar : column.type = .scalar type)
    (cache : LayoutCache) :
    ((record.getValue context column).run cache).1 =
      .ok (((record.find? column.sourceKey).bind fun field =>
          field.toScalar? context column.sourceKey type cache).getD
        (if column.nullable then .null else type.zero context)) := by
  have wrapped : ∀ {α : Type} (wrap : α → ColumnValue) (zero : α) (read : Json → Option α),
      ColumnValue.ofOption wrap
          (orDefault column.nullable zero ((record.find? column.sourceKey).bind read)) =
        ((record.find? column.sourceKey).bind fun field => (read field).map wrap).getD
          (if column.nullable then .null else wrap zero) := by
    intro α wrap zero read
    rw [← Function.comp_def, ← Option.map_bind]
    cases (record.find? column.sourceKey).bind read <;> cases column.nullable <;> rfl
  unfold getValue
  rw [scalar]
  cases type with
  | int => exact congrArg Except.ok (wrapped .int 0 Json.toInt?)
  | float => exact congrArg Except.ok (wrapped .float 0.0 Json.toFloat?)
  | string => exact congrArg Except.ok (wrapped .string "" Json.toText?)
  | dateTime =>
    change Except.ok (ColumnValue.ofOption _
      (record.getDateTime context column.sourceKey column.nullable cache).1) = _
    rw [fst_getDateTime, wrapped]
    rfl

theorem getValue_held (held : record.find? key = some value) {column : Column}
    (source : column.sourceKey = key) {type : ScalarType} (scalar : column.type = .scalar type)
    (cache : LayoutCache) :
    ((record.getValue context column).run cache).1 =
      .ok ((value.toScalar? context key type cache).getD
        (if column.nullable then .null else type.zero context)) := by
  subst source
  rw [fst_getValue scalar, held]
  rfl

/-- A nullable column of a scalar type reads what its field is as a value of the type, or null. -/
theorem getValue_scalar (held : record.find? key = some value) {column : Column}
    (source : column.sourceKey = key) (nullable : column.nullable = true) {type : ScalarType}
    (scalar : column.type = .scalar type) (cache : LayoutCache) :
    ((record.getValue context column).run cache).1 =
      .ok ((value.toScalar? context key type cache).getD .null) := by
  rw [getValue_held held source scalar, nullable]
  rfl

/-- A column of an array type has an array, which is the same whether null is allowed or not. -/
theorem getValue_array {column : Column} {element : ScalarType}
    (isArray : column.type = .array element) (cache : LayoutCache) :
    (record.getValue context column).run cache =
      (.ok (.array (record.getArray context column.sourceKey element cache).1),
        (record.getArray context column.sourceKey element cache).2) := by
  unfold getValue
  rw [isArray]
  rfl

/-- What holds of null, of every array that is read, of the zeros of types and of what fields are as
values of types holds of what columns have. -/
theorem of_getValue {property : ColumnValue → Prop} (isNull : property .null)
    (isArray : ∀ key element cache, property (.array (record.getArray context key element cache).1))
    (isZero : ∀ type : ScalarType, property (type.zero context))
    (isField : ∀ {key type} {field : Json} {cache value},
      field.toScalar? context key type cache = some value → property value)
    {column : Column} {value : ColumnValue} {cache : LayoutCache}
    (answered : ((record.getValue context column).run cache).1 = .ok value) : property value := by
  cases type : column.type with
  | unknown =>
    unfold getValue at answered
    rw [type] at answered
    cases answered
  | array element =>
    rw [getValue_array type] at answered
    exact Except.ok.inj answered ▸ isArray _ element cache
  | scalar scalar =>
    rw [fst_getValue type] at answered
    rw [← Except.ok.inj answered]
    cases read : (record.find? column.sourceKey).bind fun field =>
        field.toScalar? context column.sourceKey scalar cache with
    | some value =>
      obtain ⟨_, -, read⟩ := Option.bind_eq_some_iff.1 read
      exact isField read
    | none =>
      cases column.nullable with
      | true => exact isNull
      | false => exact isZero scalar

/-- An array column reads as many values as its field has elements. -/
theorem size_getArray (context : ReadContext) (record : Record) (key : String)
    (element : ScalarType) (cache : LayoutCache) :
    (record.getArray context key element cache).1.size = (record.elements key).length := by
  have instants_length : ∀ (items : List Json) (cache : LayoutCache),
      (instants context key items cache).1.length = items.length := by
    intro items
    induction items with
    | nil => exact fun _ => rfl
    | cons item rest ih => exact fun cache => congrArg (· + 1) (ih _)
  cases element with
  | int => exact List.length_map _
  | float => exact List.length_map _
  | string => exact List.length_map _
  | dateTime => exact instants_length _ cache

theorem element_getArray (context : ReadContext) (record : Record) (key : String)
    (element : ScalarType) (cache : LayoutCache) :
    (record.getArray context key element cache).1.element = element := by
  cases element <;> rfl

/-- The first value of an array column is what the first element is as a value of the type. -/
theorem first?_getArray {first : Json} {rest : List Json}
    (held : record.find? key = some (.array (first :: rest))) {element : ScalarType}
    {cache : LayoutCache} {scalar : ColumnValue}
    (read : first.toScalar? context key element cache = some scalar) :
    (record.getArray context key element cache).1.first? = some scalar := by
  have items : record.elements key = first :: rest := by simp [elements, held]
  cases element <;> simp only [Json.toScalar?, Option.map_eq_some_iff] at read <;>
    obtain ⟨answer, read, rfl⟩ := read
  · change Option.map _ ((record.elements key).map _).head? = _
    simp [items, read]
  · change Option.map _ ((record.elements key).map _).head? = _
    simp [items, read]
  · change Option.map _ ((record.elements key).map _).head? = _
    simp [items, read]
  · change Option.map _ (instants context key (record.elements key) cache).1.head? = _
    rw [items]
    change some (ColumnValue.dateTime ((first.toInstant? context key cache).1.getD _)) = _
    rw [read]
    rfl

/-- The inferred type of a field and its getters agree, whatever is remembered.

Integers are inferred exactly where the field has an integer, and of texts date-times exactly where
the field has an instant; doubles and texts that are inferred are there. An array that is inferred
has elements, as many as its column has values, and the first value of the column is what a nullable
column of the element type reads from the first element alone, which is not null. So no nullable
column with the inferred type reads null. -/
theorem detectType_agrees (context : ReadContext) (cache : LayoutCache)
    (held : record.find? key = some value) :
    (record.detectType? context.reader key = some (.scalar .int) ↔
      (record.getInt key true).isSome = true) ∧
    (∀ text, value = .string text →
      (record.detectType? context.reader key = some (.scalar .dateTime) ↔
        (record.getDateTime context key true cache).1.isSome = true)) ∧
    (record.detectType? context.reader key = some (.scalar .float) →
      (record.getFloat key true).isSome = true) ∧
    (record.detectType? context.reader key = some (.scalar .string) →
      (record.getString key true).isSome = true) ∧
    (∀ element, record.detectType? context.reader key = some (.array element) →
      ∃ first rest scalar, value = .array (first :: rest) ∧
        (record.getArray context key element cache).1.size = rest.length + 1 ∧
        (record.getArray context key element cache).1.element = element ∧
        (record.getArray context key element cache).1.first? = some scalar ∧
        scalar.isNull = false ∧
        (((single key first).getValue context
          { name := key, type := .scalar element, nullable := true }).run cache).1 = .ok scalar) ∧
    ∀ column : Column, column.sourceKey = key → column.nullable = true →
      record.detectType? context.reader key = some column.type → column.type ≠ .unknown →
      ∃ answer, ((record.getValue context column).run cache).1 = .ok answer ∧
        answer.isNull = false := by
  have inferred : ∀ {type}, record.detectType? context.reader key = some type ↔
      value.detectType context.reader = type := by
    simp [detectType?, held]
  have scalars : ∀ {type}, value.detectType context.reader = .scalar type →
      ∃ scalar, value.toScalar? context key type cache = some scalar := fun detected =>
    Option.isSome_iff_exists.1 (Json.isSome_toScalar?_of_detectType detected key cache)
  refine ⟨?_, ?_, fun detected => ?_, fun detected => ?_, fun element detected => ?_,
    fun column source nullable detected concrete => ?_⟩
  · rw [inferred, Json.detectType_eq_int_iff, getInt, held, orDefault_true]
    rfl
  · rintro text rfl
    rw [inferred, getDateTime_of_find? held, orDefault_true]
    exact Json.detectType_string_eq_dateTime_iff
  · obtain ⟨scalar, read⟩ := scalars (inferred.1 detected)
    obtain ⟨answer, read, -⟩ := Option.map_eq_some_iff.1 read
    simp [getFloat, held, read]
  · obtain ⟨scalar, read⟩ := scalars (inferred.1 detected)
    obtain ⟨answer, read, -⟩ := Option.map_eq_some_iff.1 read
    simp [getString, held, read]
  · obtain ⟨first, rest, rfl, detected⟩ := Json.detectType_eq_array_iff.1 (inferred.1 detected)
    obtain ⟨scalar, read⟩ := Option.isSome_iff_exists.1
      (Json.isSome_toScalar?_of_detectType detected key cache)
    refine ⟨first, rest, scalar, rfl, ?_, element_getArray .., first?_getArray held read,
      Json.isNull_of_toScalar? read, ?_⟩
    · simp [size_getArray, elements, held]
    · rw [getValue_scalar (find?_single key first) rfl rfl rfl, read]
      rfl
  · cases type : column.type with
    | unknown => exact absurd type concrete
    | scalar scalarType =>
      obtain ⟨scalar, read⟩ := scalars ((inferred.1 detected).trans type)
      refine ⟨scalar, ?_, Json.isNull_of_toScalar? read⟩
      rw [getValue_scalar held source nullable type, read]
      rfl
    | array element =>
      refine ⟨.array (record.getArray context key element cache).1, ?_, rfl⟩
      subst source
      unfold getValue
      rw [type]
      rfl

/-- A date is read although the layout remembered for its field does not read it. -/
theorem detectType_agrees_stale :
    (single "day" (.string "2021-01-02")).find? "day" = some (.string "2021-01-02") ∧
      ((single "day" (.string "2021-01-02")).getDateTime {} "day" true
        (LayoutCache.empty.insert "day" 0)).1.isSome = true :=
  ⟨find?_single .., ((detectType_agrees {} _ (find?_single ..)).2.1 _ rfl).1 (by decide +kernel)⟩

end Record

end Intake
