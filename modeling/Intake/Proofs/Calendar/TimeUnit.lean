import Intake.Calendar.TimeUnit
import Intake.Proofs.Number.Rational

/-!
# The instant that a double counts to

A double that is an integer within 64 bits counts units from the epoch, forward or back, and
`TimeUnit.counts_exactly` is the main statement: such a double has an instant where what it counts
to lies in the supported years, it is that instant to the nanosecond, and units that count to the
same instant agree. `TimeUnit.castInstant?` finds the instant by the comparisons and the cast of
doubles and splits a count into seconds and a rest; it is the same function.

Doubles with a fractional part and those beyond 64 bits go through seconds as a double, of which
nothing is said here.
-/

namespace Intake

/-! ## Instants and nanoseconds -/

namespace Instant

/-- The instant that lies a number of nanoseconds after the epoch, outside leap seconds. -/
structure LiesAt (instant : Instant) (nanos : Int) : Prop where
  toNanos_eq : instant.toNanos = nanos
  nano_lt : instant.nano < nanosPerSecond

theorem ofNanos?_eq_some_iff {nanos : Int} {instant : Instant} :
    ofNanos? nanos = some instant ↔ instant.LiesAt nanos := by
  obtain ⟨seconds, nano, inRange, nano_lt⟩ := instant
  unfold ofNanos? ofSeconds? nanosPerSecond
  constructor
  · intro made
    split at made
    · cases made
      refine ⟨?_, ?_⟩
      · simp only [toNanos, nanosPerSecond]
        omega
      · simp only [nanosPerSecond]
        omega
    · cases made
  · rintro ⟨isNanos, regular⟩
    simp only [toNanos, nanosPerSecond] at isNanos regular
    have whole : nanos / (1000000000 : Nat) = seconds := by omega
    have rest : (nanos % (1000000000 : Nat)).toNat = nano := by omega
    rw [whole, rest, dif_pos ⟨inRange, nano_lt⟩]

/-- The nanoseconds at which an instant lies are those of the supported years. -/
theorem isSome_ofNanos?_iff {nanos : Int} : (ofNanos? nanos).isSome = true ↔
    firstSecond * nanosPerSecond ≤ nanos ∧ nanos < (lastSecond + 1) * nanosPerSecond := by
  unfold ofNanos? ofSeconds? nanosPerSecond
  split
  · simp only [Option.isSome_some, true_iff]
    omega
  · simp only [Option.isSome_none, Bool.false_eq_true, false_iff]
    omega

end Instant

namespace TimeUnit

theorem nanos_pos (unit : TimeUnit) : 0 < unit.nanos := by cases unit <;> decide

theorem instantOfInt?_eq_some_iff {unit : TimeUnit} {count : Int} {instant : Instant} :
    unit.instantOfInt? count = some instant ↔ instant.LiesAt (count * unit.nanos) :=
  Instant.ofNanos?_eq_some_iff

/-! ## Integral doubles -/

/-- The instant of an integral double strictly within the signed integers of 64 bits. -/
theorem toInstant?_of_inside {unit : TimeUnit} {value : Float} {integer : Int}
    (isInteger : (BinaryValue.ofFloat? value).bind BinaryValue.integer? = some integer)
    (inside : -2 ^ 63 < integer ∧ integer < 2 ^ 63) :
    unit.toInstant? value = unit.instantOfInt? integer := by
  obtain ⟨exact, isExact, isInteger⟩ := Option.bind_eq_some_iff.1 isInteger
  simp only [toInstant?, isExact, Option.bind_eq_bind, Option.bind_some, isInteger]
  exact if_pos inside

/-- The instant of an integral double elsewhere. -/
theorem toInstant?_of_outside {unit : TimeUnit} {value : Float} {integer : Int}
    (isInteger : (BinaryValue.ofFloat? value).bind BinaryValue.integer? = some integer)
    (outside : ¬(-2 ^ 63 < integer ∧ integer < 2 ^ 63)) :
    unit.toInstant? value = instantOfSeconds? (value * unit.seconds) := by
  obtain ⟨exact, isExact, isInteger⟩ := Option.bind_eq_some_iff.1 isInteger
  simp only [toInstant?, isExact, Option.bind_eq_bind, Option.bind_some, isInteger]
  exact if_neg outside

variable {unit : TimeUnit} {value : Float} {count : Int}

theorem toInstant?_of_count (isCount : rationalOf? value = some (count : ℚ))
    (small : |count| < 2 ^ 63) : unit.toInstant? value = unit.instantOfInt? count :=
  toInstant?_of_inside (BinaryValue.integer?_ofFloat?_eq_some_iff.2 isCount) (abs_lt.1 small)

/-- The infinities and NaN count to nothing. -/
theorem toInstant?_of_not_finite (missing : rationalOf? value = none) :
    unit.toInstant? value = none := by
  rw [toInstant?, BinaryValue.ofFloat?_eq_none_iff.2 missing]
  rfl

/-- A double with a fractional part is taken to seconds. -/
theorem toInstant?_of_fraction (finite : value.isFinite = true) (fraction : ¬IsWhole value) :
    unit.toInstant? value = instantOfSeconds? (value * unit.seconds) := by
  obtain ⟨number, isNumber⟩ := Option.isSome_iff_exists.1 (isSome_rationalOf?.trans finite)
  rw [← BinaryValue.map_toRat_ofFloat?, Option.map_eq_some_iff] at isNumber
  obtain ⟨exact, isExact, -⟩ := isNumber
  have notInteger : exact.integer? = none := by
    rw [Option.eq_none_iff_forall_ne_some]
    intro integer isInteger
    refine fraction (isWhole_iff.2 ⟨integer, ?_⟩)
    rw [← BinaryValue.integer?_ofFloat?_eq_some_iff, isExact, Option.bind_some, isInteger]
  simp only [toInstant?, isExact, Option.bind_eq_bind, Option.bind_some, notInteger]

/-! ## By the comparisons and the cast of doubles -/

/-- The number of units in a second. -/
def perSecond (unit : TimeUnit) : Nat := nanosPerSecond / unit.nanos

/-- The instant that a double counts to, by the comparisons and the cast of doubles. A count is
split into whole seconds, rounded down, and the units that are left. -/
def castInstant? (unit : TimeUnit) (value : Float) : Option Instant :=
  if value.isFinite then
    if IsWhole value ∧ value.abs < Number.floatOfInt (2 ^ 63 - 1) then
      Instant.ofSeconds? (castInt value / unit.perSecond)
        ((castInt value % unit.perSecond).toNat * unit.nanos)
    else instantOfSeconds? (value * unit.seconds)
  else none

/-- Splitting a count into seconds and a rest of units is splitting its nanoseconds. -/
theorem instantOfInt?_eq_ofSeconds? (unit : TimeUnit) (count : Int) :
    unit.instantOfInt? count = Instant.ofSeconds? (count / unit.perSecond)
      ((count % unit.perSecond).toNat * unit.nanos) := by
  unfold instantOfInt? Instant.ofNanos? perSecond
  cases unit <;> simp only [nanos, nanosPerSecond] <;> congr 1 <;> omega

/-- Deciding by the parts of a double and deciding by its comparisons and its cast lead to the same
instant. -/
theorem toInstant?_eq_castInstant? (unit : TimeUnit) (value : Float) :
    unit.toInstant? value = unit.castInstant? value := by
  unfold castInstant?
  by_cases finite : value.isFinite = true
  · rw [if_pos finite]
    by_cases whole : IsWhole value
    · obtain ⟨count, isCount⟩ := isWhole_iff.1 whole
      have guard := abs_lt_greatest_iff isCount
      by_cases small : |count| < 2 ^ 63
      · have cast := castInt_of_inside isCount (abs_lt.1 small).1.le (abs_lt.1 small).2
        rw [if_pos ⟨whole, guard.2 small⟩, toInstant?_of_count isCount small, cast,
          instantOfInt?_eq_ofSeconds?]
      · rw [if_neg fun inside => small (guard.1 inside.2)]
        exact toInstant?_of_outside (BinaryValue.integer?_ofFloat?_eq_some_iff.2 isCount)
          fun inside => small (abs_lt.2 inside)
    · rw [if_neg fun inside => whole inside.1, toInstant?_of_fraction finite whole]
  · have missing : rationalOf? value = none := by
      rw [← Option.not_isSome_iff_eq_none, isSome_rationalOf?]
      exact finite
    rw [if_neg finite, toInstant?_of_not_finite missing]

/-! ## Counts are exact -/

/-- Counts of units are exact, before the epoch and after it.

A double that is an integer strictly within 64 bits has an instant where that many units after the
epoch lie in the supported years, and the instant is the one that lies there, to the nanosecond.
NaN and the infinities have none. So counts of two units that denote the same instant are read
alike. The comparison with the rounded bound, the cast that clamps and the split into seconds lead
to the same instants. -/
theorem counts_exactly (unit : TimeUnit) :
    (∀ (value : Float) (count : Int), rationalOf? value = some (count : ℚ) → |count| < 2 ^ 63 →
      (∀ instant, unit.toInstant? value = some instant ↔
        instant.LiesAt (count * unit.nanos)) ∧
      ((unit.toInstant? value).isSome = true ↔
        firstSecond * nanosPerSecond ≤ count * unit.nanos ∧
          count * unit.nanos < (lastSecond + 1) * nanosPerSecond)) ∧
    (∀ value : Float, value.isNaN = true ∨ value.isInf = true → unit.toInstant? value = none) ∧
    (∀ (other : TimeUnit) (value value' : Float) (count count' : Int),
      rationalOf? value = some (count : ℚ) → rationalOf? value' = some (count' : ℚ) →
      |count| < 2 ^ 63 → |count'| < 2 ^ 63 → count * unit.nanos = count' * other.nanos →
      unit.toInstant? value = other.toInstant? value') ∧
    ∀ value, unit.toInstant? value = unit.castInstant? value := by
  refine ⟨fun value count isCount small => ⟨fun instant => ?_, ?_⟩, fun value special => ?_,
    fun other value value' count count' isCount isCount' small small' same => ?_,
    toInstant?_eq_castInstant? unit⟩
  · rw [toInstant?_of_count isCount small, instantOfInt?_eq_some_iff]
  · rw [toInstant?_of_count isCount small, instantOfInt?, Instant.isSome_ofNanos?_iff]
  · exact toInstant?_of_not_finite (rationalOf?_eq_none_iff.2 special)
  · rw [toInstant?_of_count isCount small, toInstant?_of_count isCount' small', instantOfInt?,
      instantOfInt?, same]

/-- Nearly the earliest count of nanoseconds, which is also a count of microseconds, and a count of
seconds beyond the supported years. -/
theorem early_counts_exactly :
    nanosecond.toInstant? (Number.floatOfInt (-9223372036854656000)) =
      some { seconds := -9223372037, nano := 145344000 } ∧
    nanosecond.toInstant? (Number.floatOfInt (-9223372036854656000)) =
      microsecond.toInstant? (Number.floatOfInt (-9223372036854656)) ∧
    (second.toInstant? (Number.floatOfInt (-9223372036854656))).isSome = false ∧
    second.toInstant? (0.0 / 0.0) = none := by
  have nanoseconds : rationalOf? (Number.floatOfInt (-9223372036854656000)) =
      some ((-9223372036854656000 : ℤ) : ℚ) := by decide +kernel
  have microseconds : rationalOf? (Number.floatOfInt (-9223372036854656)) =
      some ((-9223372036854656 : ℤ) : ℚ) := by decide +kernel
  refine ⟨(((counts_exactly nanosecond).1 _ _ nanoseconds (by decide)).1 _).2
      ⟨by decide, by decide⟩,
    (counts_exactly nanosecond).2.2.1 microsecond _ _ _ _ nanoseconds microseconds (by decide)
      (by decide) (by decide), ?_, (counts_exactly second).2.1 _ (.inl (by decide +kernel))⟩
  rw [Bool.eq_false_iff, Ne, ((counts_exactly second).1 _ _ microseconds (by decide)).2]
  decide

end TimeUnit

end Intake
