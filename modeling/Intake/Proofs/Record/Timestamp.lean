import Intake.Proofs.Calendar.TimeUnit
import Intake.Proofs.Record.Inference

/-!
# Counts as instants

A number that counts units since the epoch is made a double before it is made an instant. The
instant is therefore the one that was counted exactly where the count fits a double, and is not the
least integer of 64 bits. `Record.counted_exactly_iff` is the main statement, for fields and for
elements of arrays, and `late_nanoseconds_rounded` is a count of nanoseconds that is rounded.
-/

namespace Intake

namespace TimeUnit

/-- From the doubles at both ends of the integers of 64 bits nothing is read but, in nanoseconds,
an instant beyond all of them. -/
theorem toNanos_instantOfSeconds?_extreme (unit : TimeUnit) :
    (instantOfSeconds? (Number.floatOfInt (2 ^ 63) * unit.seconds)).map Instant.toNanos =
      (if unit = .nanosecond then some 9223372036854776382 else none) ∧
    (instantOfSeconds? (Number.floatOfInt (-2 ^ 63) * unit.seconds)).map Instant.toNanos =
      (if unit = .nanosecond then some (-9223372036854776382) else none) := by
  cases unit <;> decide +kernel

/-- An instant that is read from either end lies at no count of 64 bits. -/
theorem not_liesAt_of_extreme {unit : TimeUnit} {extreme count : Int} {instant : Instant}
    (isExtreme : extreme = 2 ^ 63 ∨ extreme = -2 ^ 63) (small : count.natAbs ≤ 2 ^ 63)
    (read : instantOfSeconds? (Number.floatOfInt extreme * unit.seconds) = some instant) :
    ¬instant.LiesAt (count * unit.nanos) := by
  intro lies
  obtain ⟨late, early⟩ := toNanos_instantOfSeconds?_extreme unit
  rcases isExtreme with rfl | rfl
  · rw [read, Option.map_some, lies.toNanos_eq] at late
    cases unit <;> simp [nanos] at late
    omega
  · rw [read, Option.map_some, lies.toNanos_eq] at early
    cases unit <;> simp [nanos] at early
    omega

/-- The double of a signed integer is read as the instant it counts exactly where the integer fits
and is not the least. -/
theorem toInstant?_floatOfInt_iff {unit : TimeUnit} {count : Int} {instant : Instant}
    (low : -2 ^ 63 ≤ count) (high : count < 2 ^ 63) (lies : instant.LiesAt (count * unit.nanos)) :
    unit.toInstant? (Number.floatOfInt count) = some instant ↔
      FitsDouble count ∧ count ≠ -2 ^ 63 := by
  have small : count.natAbs ≤ 2 ^ 63 := by omega
  obtain ⟨rounded, isRounded, same, fits, bounded, kept⟩ := Number.integer?_floatOfInt small
  by_cases inside : -2 ^ 63 < rounded ∧ rounded < 2 ^ 63
  · rw [toInstant?_of_inside isRounded inside, instantOfInt?_eq_some_iff]
    constructor
    · intro liesRounded
      have equal : rounded * unit.nanos = count * unit.nanos :=
        liesRounded.toNanos_eq.symm.trans lies.toNanos_eq
      have apart : (unit.nanos : Int) ≠ 0 := by have := unit.nanos_pos; omega
      obtain rfl := Int.eq_of_mul_eq_mul_right apart equal
      exact ⟨fits, by omega⟩
    · rintro ⟨exact, -⟩
      rwa [kept exact]
  · rw [toInstant?_of_outside isRounded inside, same]
    constructor
    · intro read
      exact absurd lies (not_liesAt_of_extreme (by omega) small read)
    · rintro ⟨exact, notLeast⟩
      rw [kept exact] at inside
      omega

/-- A number that is a signed integer of 64 bits is read as the instant it counts exactly where it
fits a double and is not the least. -/
theorem toInstant?_toFloat_iff {unit : TimeUnit} {number : Number} {count : Int}
    (isCount : number.toInt? = some count) {instant : Instant}
    (lies : instant.LiesAt (count * unit.nanos)) :
    unit.toInstant? number.toFloat = some instant ↔ FitsDouble count ∧ count ≠ -2 ^ 63 := by
  cases number with
  | integer value inRange =>
    simp only [Number.toInt?, Option.ite_none_right_eq_some, Option.some.injEq] at isCount
    obtain ⟨high, rfl⟩ := isCount
    exact toInstant?_floatOfInt_iff inRange.1 high lies
  | float value finite =>
    obtain ⟨exact, isExact, isCount⟩ := Option.bind_eq_some_iff.1 isCount
    obtain ⟨integer, isInteger, isCount⟩ := Option.bind_eq_some_iff.1 isCount
    obtain ⟨inside, isCount⟩ := Option.ite_none_right_eq_some.1 isCount
    cases isCount
    have isInteger : (BinaryValue.ofFloat? value).bind BinaryValue.integer? = some count := by
      rw [isExact, Option.bind_some, isInteger]
    rw [Number.toFloat, toInstant?_of_inside isInteger inside, instantOfInt?_eq_some_iff]
    exact ⟨fun _ => ⟨Number.fitsDouble_of_integer? isInteger, by omega⟩, fun _ => lies⟩

end TimeUnit

namespace Record

theorem elements_of_find? {record : Record} {key : String} {items : List Json}
    (held : record.find? key = some (.array items)) : record.elements key = items := by
  simp only [elements, held]

/-- An array of instants is read element by element. -/
theorem getArray_dateTime {record : Record} {key : String} {items : List Json}
    (context : ReadContext) (held : record.find? key = some (.array items)) (cache : LayoutCache) :
    (record.getArray context key .dateTime cache).1 =
      .dateTimes (instants context key items cache).1 := by
  rw [← elements_of_find? held]
  rfl

/-- Every element of an array field is read with some layout remembered. -/
theorem getElem?_instants (context : ReadContext) (key : String) {items : List Json}
    {position : Nat} {item : Json} (held : items[position]? = some item) (cache : LayoutCache) :
    ∃ earlier, (instants context key items cache).1[position]? =
      some ((item.toInstant? context key earlier).1.getD context.epoch) := by
  induction items generalizing position cache with
  | nil => cases held
  | cons first rest ih =>
    cases position with
    | zero =>
      cases held
      exact ⟨cache, rfl⟩
    | succ position => exact ih held _

/-- The field or the array element that counts units since the epoch is read as the instant it
counts, whatever is remembered and whether or not it may be null, exactly where the count fits a
double and is not the least integer of 64 bits. -/
theorem counted_exactly_iff (context : ReadContext) {number : Number} {count : Int}
    (isCount : number.toInt? = some count) {instant : Instant}
    (lies : instant.LiesAt (count * context.unit.nanos)) :
    (∀ (record : Record) (key : String) (cache : LayoutCache),
      (record.find? key = some (.number number) → ∀ nullable,
        (record.getDateTime context key nullable cache).1 = some instant) ∧
      ∀ (items : List Json) (position : Nat), record.find? key = some (.array items) →
        items[position]? = some (.number number) →
        ∃ instants, (record.getArray context key .dateTime cache).1 = .dateTimes instants ∧
          instants.length = items.length ∧ instants[position]? = some instant) ↔
    FitsDouble count ∧ count ≠ -2 ^ 63 := by
  have read (key : String) (cache : LayoutCache) :
      ((Json.number number).toInstant? context key cache).1 = some instant ↔
        FitsDouble count ∧ count ≠ -2 ^ 63 := TimeUnit.toInstant?_toFloat_iff isCount lies
  constructor
  · intro exact
    have held := find?_single "" (Json.number number)
    have scalar := (exact _ "" .empty).1 held true
    rw [getDateTime_of_find? held, orDefault_true] at scalar
    exact (read "" .empty).1 scalar
  · intro fits record key cache
    refine ⟨fun held nullable => ?_, fun items position held isItem => ?_⟩
    · rw [getDateTime_of_find? held, (read ..).2 fits]
      rfl
    · have array := getArray_dateTime context held cache
      have size := size_getArray context record key .dateTime cache
      rw [array, elements_of_find? held] at size
      obtain ⟨earlier, isRead⟩ := getElem?_instants context key isItem cache
      rw [(read key earlier).2 fits] at isRead
      exact ⟨_, array, size, isRead⟩

/-- The nanoseconds counted to a moment of 2021 fit after their last digits are rounded. -/
theorem round_nanoseconds_exact : ∃ instant : Instant,
    instant.LiesAt (1609545600123456768 * TimeUnit.nanosecond.nanos) ∧
    Number.toInt? (.integer 1609545600123456768 (by decide)) = some 1609545600123456768 ∧
    ∀ nullable, ((single "t" (.number (.integer 1609545600123456768 (by decide)))).getDateTime
      { unit := .nanosecond } "t" nullable .empty).1 = some instant := by
  have lies : Instant.LiesAt { seconds := 1609545600, nano := 123456768 }
      (1609545600123456768 * TimeUnit.nanosecond.nanos) := ⟨by decide, by decide⟩
  have fits : FitsDouble 1609545600123456768 := ⟨6287287500482253, 8, by decide, by decide⟩
  exact ⟨_, lies, rfl, ((counted_exactly_iff { unit := .nanosecond } rfl lies).2
    ⟨fits, by decide⟩ _ "t" .empty).1 (find?_single ..)⟩

/-- The nanoseconds counted to a moment of 2021 are rounded to a multiple of 256, in a field and in
an array. -/
theorem late_nanoseconds_rounded :
    Instant.LiesAt { seconds := 1609545600, nano := 123456789 }
      (1609545600123456789 * TimeUnit.nanosecond.nanos) ∧
    ((single "t" (.number (.integer 1609545600123456789 (by decide)))).getDateTime
      { unit := .nanosecond } "t" true .empty).1 =
        some { seconds := 1609545600, nano := 123456768 } ∧
    ((single "t" (.array [.number (.integer 1609545600123456789 (by decide))])).getArray
      { unit := .nanosecond } "t" .dateTime .empty).1 =
        .dateTimes [{ seconds := 1609545600, nano := 123456768 }] := by
  refine ⟨⟨by decide, by decide⟩, ?_, ?_⟩
  · rw [getDateTime_of_find? (find?_single ..), orDefault_true]
    decide +kernel
  · rw [getArray_dateTime _ (find?_single ..)]
    refine congrArg ColumnArray.dateTimes ?_
    decide +kernel

end Record

end Intake
