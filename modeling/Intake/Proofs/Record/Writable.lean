import Intake.Proofs.Layout.LeapSecond
import Intake.Proofs.Number.Integral
import Intake.Proofs.Record.Timestamp
import Intake.Settings.Basic
import Mathlib.Data.Option.Basic

/-!
# Values that can be written

The types of values allow more than can be read back after it was written: integers beyond 64 bits,
doubles that are not finite, and leap seconds in the middle of a minute. No column has such a
number: `Record.writable_of_getValue` says so. No column has such a leap second where the zone runs
whole minutes ahead and the epoch is not one itself: `Record.regular_of_getValue` says so, and zones
and epochs that settings name are as it asks.
-/

namespace Intake

/-! ## Numbers -/

/-- An integer of 64 bits with a sign. -/
def Signed64 (value : Int) : Prop := -0x8000000000000000 ≤ value ∧ value < 0x8000000000000000

instance (value : Int) : Decidable (Signed64 value) := inferInstanceAs (Decidable (_ ∧ _))

/-- The integer of a number has 64 bits with a sign. -/
theorem Number.signed64_of_toInt? {number : Number} {value : Int}
    (isValue : number.toInt? = some value) : Signed64 value := by
  cases number with
  | integer held inRange =>
    obtain ⟨below, same⟩ := Option.ite_none_right_eq_some.1 isValue
    cases same
    exact ⟨inRange.1, below⟩
  | float held finite =>
    obtain ⟨_, -, isValue⟩ := Option.bind_eq_some_iff.1 isValue
    obtain ⟨_, -, isValue⟩ := Option.bind_eq_some_iff.1 isValue
    obtain ⟨inside, same⟩ := Option.ite_none_right_eq_some.1 isValue
    cases same
    exact ⟨Int.le_of_lt inside.1, inside.2⟩

/-- The double of a number is finite. -/
theorem Number.isFinite_toFloat (number : Number) : number.toFloat.isFinite = true := by
  cases number with
  | integer value inRange =>
    unfold leastInteger greatestInteger at inRange
    exact isFinite_floatOfInt (by omega)
  | float value finite => exact finite

namespace Json

theorem signed64_of_toInt? {value : Json} {integer : Int}
    (isInteger : value.toInt? = some integer) : Signed64 integer := by
  cases value with
  | bool value =>
    cases isInteger
    cases value <;> decide
  | number value => exact Number.signed64_of_toInt? isInteger
  | null | string | array | object => cases isInteger

theorem isFinite_of_toFloat? {value : Json} {double : Float}
    (isDouble : value.toFloat? = some double) : double.isFinite = true := by
  cases value with
  | number value =>
    cases isDouble
    exact value.isFinite_toFloat
  | null | bool | string | array | object => cases isDouble

end Json

/-! ## Instants -/

namespace TimeUnit

theorem regular_of_instantOfTimestamp? {seconds : Int} {nano : Nat} {instant : Instant}
    (made : instantOfTimestamp? seconds nano = some instant) : instant.Regular := by
  obtain ⟨⟨⟩, regular, made⟩ := Option.bind_eq_some_iff.1 made
  obtain ⟨sameSeconds, sameNano⟩ := Instant.seconds_of_ofSeconds? made
  rw [Instant.Regular, sameSeconds, sameNano]
  exact (Option.guard_eq_some' ()).1 regular

/-- Numbers of units are read as instants with leap seconds at most at the end of a minute. -/
theorem regular_of_toInstant? {unit : TimeUnit} {count : Float} {instant : Instant}
    (made : unit.toInstant? count = some instant) : instant.Regular := by
  have ofSeconds {seconds : Float} (made : instantOfSeconds? seconds = some instant) :
      instant.Regular := by
    obtain ⟨_, -, made⟩ := Option.bind_eq_some_iff.1 made
    obtain ⟨_, -, made⟩ := Option.bind_eq_some_iff.1 made
    obtain ⟨_, -, made⟩ := Option.bind_eq_some_iff.1 made
    dsimp only at made
    split at made <;> exact regular_of_instantOfTimestamp? made
  obtain ⟨_, -, made⟩ := Option.bind_eq_some_iff.1 made
  -- Integral counts are exact; beyond 64 bits, and for all others, the count is taken to seconds.
  split at made
  · split at made
    · exact .inl (instantOfInt?_eq_some_iff.1 made).nano_lt
    · exact ofSeconds made
  · exact ofSeconds made

end TimeUnit

/-- A layout reader in a zone of whole minutes reads regular instants, by whichever layout. -/
theorem LayoutReader.regular_of_readField {reader : LayoutReader} (whole : reader.zone.WholeMinutes)
    {cache : LayoutCache} {key value : String} {instant : Instant}
    (read : (reader.readField cache key value).1 = some instant) : instant.Regular := by
  rw [readField_fst, Option.or_eq_some_iff] at read
  rcases read with remembered | ⟨-, first⟩
  · obtain ⟨_, -, remembered⟩ := Option.bind_eq_some_iff.1 remembered
    obtain ⟨_, -, read⟩ := Option.bind_eq_some_iff.1 remembered
    exact Layout.regular_of_read? whole read
  · obtain ⟨⟨_, _⟩, scanned, same⟩ := Option.map_eq_some_iff.1 first
    cases same
    obtain ⟨-, _, -, read⟩ := scan_eq_some scanned
    exact Layout.regular_of_read? whole read

theorem Json.regular_of_toInstant? {context : ReadContext}
    (whole : context.reader.zone.WholeMinutes) {value : Json} {key : String} {cache : LayoutCache}
    {instant : Instant} (read : (value.toInstant? context key cache).1 = some instant) :
    instant.Regular := by
  cases value with
  | number value => exact TimeUnit.regular_of_toInstant? read
  | string value =>
    by_cases given : value = ""
    · subst given
      cases read
    · rw [toInstant?_string given] at read
      exact LayoutReader.regular_of_readField whole read
  | null | bool | array | object => cases read

/-- The epoch of settings is regular. -/
theorem Settings.regular_of_epochOf {text : Option String} {epoch : Instant}
    (named : epochOf text = .ok epoch) : epoch.Regular := by
  unfold epochOf at named
  split at named
  · cases named
    exact .inl (by decide)
  · split at named
    · rename_i read
      cases named
      have whole : Zone.utc.WholeMinutes := trivial
      have strict : Layout.rfc3339.read? .utc _ = some epoch := congrArg Except.toOption read
      exact Layout.regular_of_read? whole strict
    · cases named

/-! ## Values of columns -/

/-- All numbers can be written. -/
def ColumnArray.Writable : ColumnArray → Prop
  | ints values => ∀ value ∈ values, Signed64 value
  | floats values => ∀ value ∈ values, value.isFinite = true
  | strings _ | dateTimes _ => True

/-- A number in the value is written in such a way that it can be told from all others of its
type. -/
def ColumnValue.Writable : ColumnValue → Prop
  | int value => Signed64 value
  | float value => value.isFinite = true
  | null | string _ | dateTime _ => True
  | array values => values.Writable

/-- The instants in a value. -/
def ColumnValue.instants : ColumnValue → List Instant
  | dateTime value => [value]
  | array (.dateTimes values) => values
  | _ => []

/-- No instant in the value is a leap second in the middle of a minute. -/
def ColumnValue.Regular (value : ColumnValue) : Prop :=
  ∀ instant ∈ value.instants, instant.Regular

namespace Record

variable {context : ReadContext} {record : Record}

theorem finite_zero : (0.0 : Float).isFinite = true := by decide

theorem instants_cons (context : ReadContext) (key : String) (item : Json) (rest : List Json)
    (cache : LayoutCache) : (instants context key (item :: rest) cache).1 =
      (item.toInstant? context key cache).1.getD context.epoch ::
        (instants context key rest (item.toInstant? context key cache).2).1 := rfl

theorem regular_of_instants (whole : context.reader.zone.WholeMinutes)
    (regular : context.epoch.Regular) {key : String} (items : List Json) (cache : LayoutCache) :
    ∀ instant ∈ (instants context key items cache).1, instant.Regular := by
  induction items generalizing cache with
  | nil => exact fun _ inside => nomatch inside
  | cons item rest ih =>
    rw [instants_cons]
    refine List.forall_mem_cons.2 ⟨?_, ih _⟩
    cases read : (item.toInstant? context key cache).1 with
    | none => exact regular
    | some instant => exact Json.regular_of_toInstant? whole read

theorem writable_of_getArray (context : ReadContext) (record : Record) (key : String)
    (element : ScalarType) (cache : LayoutCache) :
    (record.getArray context key element cache).1.Writable := by
  cases element with
  | int =>
    refine List.forall_mem_map.2 fun item inside => ?_
    rw [Json.elementInt_eq]
    cases isInteger : item.toInt? with
    | none => exact (by decide : Signed64 0)
    | some value => exact Json.signed64_of_toInt? isInteger
  | float =>
    refine List.forall_mem_map.2 fun item inside => ?_
    cases isDouble : item.toFloat? with
    | none => exact finite_zero
    | some value => exact Json.isFinite_of_toFloat? isDouble
  | string => trivial
  | dateTime => trivial

/-- Every column has a value whose numbers can be written. -/
theorem writable_of_getValue {column : Column} {value : ColumnValue} {cache : LayoutCache}
    (answered : ((record.getValue context column).run cache).1 = .ok value) : value.Writable := by
  refine of_getValue trivial (record.writable_of_getArray context) (fun type => ?_)
    (fun {key type field cache value} read => ?_) answered
  · cases type with
    | int => exact (by decide : Signed64 0)
    | float => exact finite_zero
    | string | dateTime => trivial
  · cases type with
    | int =>
      obtain ⟨_, isInteger, rfl⟩ := Option.map_eq_some_iff.1 read
      exact Json.signed64_of_toInt? isInteger
    | float =>
      obtain ⟨_, isDouble, rfl⟩ := Option.map_eq_some_iff.1 read
      exact Json.isFinite_of_toFloat? isDouble
    | string | dateTime =>
      obtain ⟨_, -, rfl⟩ := Option.map_eq_some_iff.1 read
      trivial

/-- In a zone of whole minutes and with a regular epoch every column has regular instants. -/
theorem regular_of_getValue (whole : context.reader.zone.WholeMinutes)
    (regular : context.epoch.Regular) {column : Column} {value : ColumnValue} {cache : LayoutCache}
    (answered : ((record.getValue context column).run cache).1 = .ok value) : value.Regular := by
  refine of_getValue (fun _ inside => nomatch inside) (fun key element cache => ?_)
    (fun type => ?_) (fun {key type field cache value} read => ?_) answered
  · cases element with
    | int | float | string => exact fun _ inside => nomatch inside
    | dateTime => exact regular_of_instants whole regular _ cache
  · cases type with
    | int | float | string => exact fun _ inside => nomatch inside
    | dateTime => exact List.forall_mem_singleton.2 regular
  · cases type with
    | int | float | string =>
      obtain ⟨_, -, rfl⟩ := Option.map_eq_some_iff.1 read
      exact fun _ inside => nomatch inside
    | dateTime =>
      obtain ⟨_, isInstant, rfl⟩ := Option.map_eq_some_iff.1 read
      exact List.forall_mem_singleton.2 (Json.regular_of_toInstant? whole isInstant)

end Record

end Intake
