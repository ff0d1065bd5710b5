import Intake.Proofs.Record.Inference

/-!
# Columns that may be null and columns that may not

Whether a column may be null only chooses what it has where its field has no value of the type.
`Record.flag_chooses_default` says so for every column of a known type: a column that may be null is
null exactly where its field is missing, null or not convertible, a column that may not be null has
the same value or the zero of its type, and both leave the same layouts remembered.
-/

namespace Intake

/-- What a Unix clock shows at an instant, in nanoseconds. It has no room for leap seconds: through
one it shows the second before it once more. -/
def Instant.unixNanos (instant : Instant) : Int :=
  instant.seconds * nanosPerSecond + (instant.nano % nanosPerSecond : Nat)

theorem Instant.unixNanos_div (instant : Instant) :
    instant.unixNanos / nanosPerSecond = instant.seconds := by
  unfold unixNanos nanosPerSecond
  omega

theorem FieldType.scalar_or_array {type : FieldType} (known : type ≠ .unknown) :
    (∃ scalar, type = .scalar scalar) ∨ ∃ element, type = .array element := by
  cases type with
  | unknown => exact absurd rfl known
  | scalar type => exact .inl ⟨type, rfl⟩
  | array element => exact .inr ⟨element, rfl⟩

namespace Json

/-- A value can be converted to a scalar type. -/
inductive Convertible (context : ReadContext) : ScalarType → Json → Prop where
  | flag (value : Bool) : Convertible context .int (bool value)
  | integer {value : Number} (integral : value.toInt?.isSome = true) :
      Convertible context .int (number value)
  | double (value : Number) : Convertible context .float (number value)
  | text {value : Json} (given : value ≠ null) : Convertible context .string value
  | timestamp {value : Number}
      (supported : (context.unit.toInstant? value.toFloat).isSome = true) :
      Convertible context .dateTime (number value)
  | dateTime {value : String} {layout : Layout} (given : value ≠ "")
      (inForce : layout ∈ context.reader.layouts)
      (reads : (layout.read? context.reader.zone value).isSome = true) :
      Convertible context .dateTime (string value)

/-- A value is a value of a scalar type where it can be converted to it, whatever is remembered. -/
theorem isSome_toScalar?_iff {context : ReadContext} {key : String} {type : ScalarType}
    {value : Json} {cache : LayoutCache} :
    (value.toScalar? context key type cache).isSome = true ↔ Convertible context type value := by
  constructor
  · intro converts
    cases type with
    | int =>
      cases value with
      | bool value => exact .flag value
      | number value => exact .integer (by simpa [toScalar?, toInt?] using converts)
      | null | string | array | object => cases converts
    | float =>
      cases value with
      | number value => exact .double value
      | null | bool | string | array | object => cases converts
    | string =>
      refine .text fun isNull => ?_
      subst isNull
      cases converts
    | dateTime =>
      cases value with
      | number value => exact .timestamp (by simpa [toScalar?, toInstant?] using converts)
      | string value =>
        rw [toScalar?, Option.isSome_map, isSome_toInstant?_string] at converts
        obtain ⟨given, layout, inForce, reads⟩ := LayoutReader.recognises_iff.1 converts
        exact .dateTime given inForce reads
      | null | bool | array | object => cases converts
  · intro convertible
    cases convertible with
    | flag | double => rfl
    | integer integral => simpa [toScalar?, toInt?] using integral
    | text given =>
      cases value with
      | null => exact absurd rfl given
      | bool | number | string | array | object => rfl
    | timestamp supported => simpa [toScalar?, toInstant?] using supported
    | dateTime given inForce reads =>
      rw [toScalar?, Option.isSome_map, isSome_toInstant?_string]
      exact LayoutReader.recognises_iff.2 ⟨given, _, inForce, reads⟩

theorem not_convertible_null (context : ReadContext) (type : ScalarType) :
    ¬Convertible context type null := by
  rintro (_ | _ | _ | given | _ | _)
  exact given rfl

end Json

namespace Record

variable {context : ReadContext} {record : Record}

/-- Whether null is allowed makes no difference to what is remembered. -/
theorem snd_getDateTime (context : ReadContext) (record : Record) (key : String) (nullable : Bool)
    (cache : LayoutCache) : (record.getDateTime context key nullable cache).2 =
      (record.getDateTime context key true cache).2 := by
  unfold getDateTime
  cases record.find? key <;> rfl

theorem snd_getValue (context : ReadContext) (record : Record) (column : Column) (nullable : Bool)
    (cache : LayoutCache) :
    ((record.getValue context { column with nullable := nullable }).run cache).2 =
      ((record.getValue context { column with nullable := true }).run cache).2 := by
  obtain ⟨name, source, type, -⟩ := column
  unfold getValue
  cases type with
  | unknown | array => rfl
  | scalar type =>
    cases type with
    | int | float | string => rfl
    | dateTime => exact snd_getDateTime context record _ nullable cache

/-- Unix seconds are the instant rounded down to a whole second. -/
theorem getUnixSeconds_eq (context : ReadContext) (record : Record) (key : String) (nullable : Bool)
    (cache : LayoutCache) :
    record.getUnixSeconds context key nullable cache =
      (((record.getDateTime context key nullable cache).1.map fun instant =>
          instant.unixNanos / (nanosPerSecond : Int),
        (record.getDateTime context key nullable cache).2) : Option Int × LayoutCache) := by
  simp only [Instant.unixNanos_div]
  rfl

/-- What a field is as a value of a scalar type, where there is such a field and such a value. -/
def scalarAt? (context : ReadContext) (record : Record) (key : String) (type : ScalarType)
    (cache : LayoutCache) : Option ColumnValue :=
  (record.find? key).bind fun field => field.toScalar? context key type cache

theorem isNull_of_scalarAt? {key : String} {type : ScalarType} {cache : LayoutCache}
    {value : ColumnValue} (read : record.scalarAt? context key type cache = some value) :
    value.isNull = false := by
  obtain ⟨field, -, read⟩ := Option.bind_eq_some_iff.1 read
  exact Json.isNull_of_toScalar? read

/-- A field has no value of a scalar type where it is missing, null or not convertible. -/
theorem scalarAt?_eq_none_iff {key : String} {type : ScalarType} (cache : LayoutCache) :
    record.scalarAt? context key type cache = none ↔
      record.find? key = none ∨ record.find? key = some .null ∨
        ∃ field, record.find? key = some field ∧ ¬Json.Convertible context type field := by
  unfold scalarAt?
  cases record.find? key with
  | none => simp
  | some field =>
    have refused : field.toScalar? context key type cache = none ↔
        ¬Json.Convertible context type field := by
      rw [← Json.isSome_toScalar?_iff, Option.not_isSome_iff_eq_none]
    rw [Option.bind_some, refused]
    constructor
    · exact fun fails => .inr (.inr ⟨field, rfl, fails⟩)
    · rintro (missing | isNull | ⟨_, ⟨⟩, fails⟩)
      · cases missing
      · cases isNull
        exact Json.not_convertible_null context type
      · exact fails

theorem isNull_zero (context : ReadContext) (type : ScalarType) :
    (type.zero context).isNull = false := by
  cases type <;> rfl

/-- Whether a column of a known type may be null only chooses its default.

Let the same column be read where it may be null and where it may not. Both leave the same layouts
remembered. A column of a scalar type that may be null is null exactly where its field is missing,
null or cannot be converted; where it may not be null it has the same value, or the zero of its type
in place of null. An array is the same in both cases. No value is null where null is not allowed.
Unix seconds are those of the instant that is read with the same flag. -/
theorem flag_chooses_default {column : Column} (known : column.type ≠ .unknown)
    (context : ReadContext) (record : Record) (cache : LayoutCache) :
    (∃ optional required after,
      (record.getValue context { column with nullable := true }).run cache =
        (.ok optional, after) ∧
      (record.getValue context { column with nullable := false }).run cache =
        (.ok required, after) ∧
      required.isNull = false ∧
      (∀ type, column.type = .scalar type →
        (optional.isNull = true ↔ record.find? column.sourceKey = none ∨
          record.find? column.sourceKey = some .null ∨
          ∃ field, record.find? column.sourceKey = some field ∧
            ¬Json.Convertible context type field) ∧
        required = if optional.isNull then type.zero context else optional) ∧
      ∀ element, column.type = .array element → required = optional) ∧
    ∀ key nullable, record.getUnixSeconds context key nullable cache =
      (((record.getDateTime context key nullable cache).1.map fun instant =>
          instant.unixNanos / (nanosPerSecond : Int),
        (record.getDateTime context key nullable cache).2) : Option Int × LayoutCache) := by
  refine ⟨?_, fun key nullable => getUnixSeconds_eq context record key nullable cache⟩
  rcases FieldType.scalar_or_array known with ⟨type, isType⟩ | ⟨element, isType⟩
  · have sameAfter := snd_getValue context record column false cache
    have optionalRead :
        ((record.getValue context { column with nullable := true }).run cache).1 =
          .ok ((record.scalarAt? context column.sourceKey type cache).getD .null) :=
      @fst_getValue context record { column with nullable := true } type isType cache
    have requiredRead :
        ((record.getValue context { column with nullable := false }).run cache).1 =
          .ok ((record.scalarAt? context column.sourceKey type cache).getD (type.zero context)) :=
      @fst_getValue context record { column with nullable := false } type isType cache
    refine ⟨_, _, _, Prod.ext optionalRead rfl, Prod.ext requiredRead sameAfter, ?_, ?_, ?_⟩
    · cases read : record.scalarAt? context column.sourceKey type cache with
      | none => exact isNull_zero context type
      | some value => exact isNull_of_scalarAt? read
    · intro other isOther
      obtain rfl := FieldType.scalar.inj (isType.symm.trans isOther)
      rw [← scalarAt?_eq_none_iff cache]
      cases read : record.scalarAt? context column.sourceKey type cache with
      | none => exact ⟨iff_of_true rfl rfl, rfl⟩
      | some value =>
        have present := isNull_of_scalarAt? read
        exact ⟨iff_of_false (by simp [present]) nofun, by simp [present]⟩
    · intro element isArray
      cases isType.symm.trans isArray
  · refine ⟨.array _, .array _, _,
      @getValue_array context record { column with nullable := true } element isType cache,
      @getValue_array context record { column with nullable := false } element isType cache, rfl,
      ?_, fun _ _ => rfl⟩
    intro type isScalar
    cases isType.symm.trans isScalar

/-- A context with the start of 2000 in place of date-times that cannot be read. -/
def sinceMillennium : ReadContext where
  epoch := { Instant.epoch with seconds := 946684800, inRange := by decide }

/-- A text that no layout reads is null where null is allowed, and the start of 2000 elsewhere. -/
theorem unreadable_flag_chooses_default :
    FieldType.scalar .dateTime ≠ .unknown ∧ ∃ optional required after,
      ((single "ts" (.string "soon")).getValue sinceMillennium
        { name := "ts", type := .scalar .dateTime, nullable := true }).run .empty =
          (.ok optional, after) ∧
      ((single "ts" (.string "soon")).getValue sinceMillennium
        { name := "ts", type := .scalar .dateTime, nullable := false }).run .empty =
          (.ok required, after) ∧
      optional.isNull = true ∧ required = .dateTime { seconds := 946684800, nano := 0 } := by
  have known : FieldType.scalar .dateTime ≠ .unknown := by decide
  obtain ⟨⟨optional, required, after, optionalRead, requiredRead, -, scalars, -⟩, -⟩ :=
    @flag_chooses_default { name := "ts", type := .scalar .dateTime } known
      sinceMillennium (single "ts" (.string "soon")) .empty
  obtain ⟨isNull_iff, isRequired⟩ := scalars .dateTime rfl
  have unread : ∀ layout ∈ sinceMillennium.reader.layouts,
      layout.read? sinceMillennium.reader.zone "soon" = none := by decide +kernel
  have isNull : optional.isNull = true := by
    refine isNull_iff.2 (.inr (.inr ⟨_, find?_single .., ?_⟩))
    rintro (_ | _ | _ | _ | _ | ⟨-, inForce, reads⟩)
    rw [unread _ inForce] at reads
    cases reads
  rw [isNull, if_pos rfl] at isRequired
  exact ⟨known, optional, required, after, optionalRead, requiredRead, isNull, isRequired⟩

end Record

end Intake
