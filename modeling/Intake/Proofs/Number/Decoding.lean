import Intake.Proofs.Number.Rational

/-!
# Numbers as integers of 64 bits

`Number.toInt?` decides by the exact parts of a double whether it is an integer, and which one.
`Number.castInt?` decides it by the comparisons and the cast of doubles, with bounds that are
rounded to doubles and a cast that clamps. The two are the same function, so the cast never clamps
and never cuts anything off. `Number.decoded_exactly` is the main statement: which numbers are
decoded to which integers, that no other number is, and that nothing is changed on the way.
-/

namespace Intake

namespace Number

/-- The rational that a number is. -/
def toRat : Number → ℚ
  | integer value _ => value
  | float value finite => (rationalOf? value).get (isSome_rationalOf?.trans finite)

/-- The signed integer of 64 bits that a number is cast to. A double must be whole and lie strictly
between the doubles nearest to the bounds. -/
def castInt? : Number → Option ℤ
  | integer value _ => if value ≤ 2 ^ 63 - 1 then some value else none
  | float value _ =>
    if IsWhole value ∧ floatOfInt (-2 ^ 63) < value ∧ value < floatOfInt (2 ^ 63 - 1) then
      some (castInt value)
    else none

variable {decoded : ℤ}

theorem toInt?_integer_eq_some_iff {value : ℤ} {inRange} :
    (integer value inRange).toInt? = some decoded ↔ value = decoded ∧ decoded ≤ 2 ^ 63 - 1 := by
  simp only [toInt?, Option.ite_none_right_eq_some, Option.some.injEq]
  constructor
  · rintro ⟨fits, rfl⟩
    exact ⟨rfl, by omega⟩
  · rintro ⟨rfl, fits⟩
    exact ⟨by omega, rfl⟩

/-- A double is decoded where it is an integer strictly within the bounds. -/
theorem toInt?_float_eq_some_iff {value : Float} {finite} :
    (float value finite).toInt? = some decoded ↔
      rationalOf? value = some (decoded : ℚ) ∧ -2 ^ 63 < decoded ∧ decoded < 2 ^ 63 := by
  have unfolded : (float value finite).toInt? =
      ((BinaryValue.ofFloat? value).bind BinaryValue.integer?).bind fun integer =>
        if -2 ^ 63 < integer ∧ integer < 2 ^ 63 then some integer else none :=
    Option.bind_assoc .. |>.symm
  rw [unfolded, Option.bind_eq_some_iff]
  simp only [BinaryValue.integer?_ofFloat?_eq_some_iff, Option.ite_none_right_eq_some,
    Option.some.injEq]
  constructor
  · rintro ⟨integer, isInteger, inside, rfl⟩
    exact ⟨isInteger, inside⟩
  · rintro ⟨isInteger, inside⟩
    exact ⟨decoded, isInteger, inside, rfl⟩

/-- Deciding by the parts of a double and deciding by its comparisons and its cast are the same. -/
theorem toInt?_eq_castInt? (number : Number) : number.toInt? = number.castInt? := by
  apply Option.ext
  intro decoded
  cases number with
  | integer value inRange =>
    rw [toInt?_integer_eq_some_iff, castInt?, Option.ite_none_right_eq_some, Option.some.injEq]
    constructor
    · rintro ⟨rfl, fits⟩
      exact ⟨fits, rfl⟩
    · rintro ⟨fits, rfl⟩
      exact ⟨rfl, fits⟩
  | float value finite =>
    rw [toInt?_float_eq_some_iff, castInt?, Option.ite_none_right_eq_some, Option.some.injEq,
      isWhole_iff]
    constructor
    · rintro ⟨isInteger, inside⟩
      exact ⟨⟨⟨decoded, isInteger⟩, (between_bounds_iff isInteger).2 inside⟩,
        castInt_of_inside isInteger inside.1.le inside.2⟩
    · rintro ⟨⟨⟨integer, isInteger⟩, between⟩, rfl⟩
      have inside := (between_bounds_iff isInteger).1 between
      rw [castInt_of_inside isInteger inside.1.le inside.2]
      exact ⟨isInteger, inside⟩

theorem toInt?_eq_some_iff {number : Number} :
    number.toInt? = some decoded ↔
      (∃ inRange, number = integer decoded inRange ∧ -2 ^ 63 ≤ decoded ∧ decoded ≤ 2 ^ 63 - 1) ∨
      ∃ value finite, number = float value finite ∧ rationalOf? value = some (decoded : ℚ) ∧
        -2 ^ 63 < decoded ∧ decoded < 2 ^ 63 := by
  cases number with
  | integer value inRange =>
    rw [toInt?_integer_eq_some_iff]
    constructor
    · rintro ⟨rfl, fits⟩
      exact .inl ⟨inRange, rfl, inRange.1, fits⟩
    · rintro (⟨_, same, -, fits⟩ | ⟨_, _, same, -⟩)
      · exact ⟨Number.integer.inj same, fits⟩
      · cases same
  | float value finite =>
    rw [toInt?_float_eq_some_iff]
    constructor
    · intro inside
      exact .inr ⟨value, finite, rfl, inside⟩
    · rintro (⟨_, same, -⟩ | ⟨_, _, same, inside⟩)
      · cases same
      · cases same
        exact inside

theorem rationalOf?_eq_toRat {value : Float} {finite} :
    rationalOf? value = some (float value finite).toRat :=
  (Option.some_get _).symm

theorem toRat_of_toInt? {number : Number} (isDecoded : number.toInt? = some decoded) :
    number.toRat = decoded := by
  rcases toInt?_eq_some_iff.1 isDecoded with ⟨_, rfl, -⟩ | ⟨value, finite, rfl, isInteger, -⟩
  · rfl
  · exact Option.some.inj (rationalOf?_eq_toRat.symm.trans isInteger)

/-- Numbers that are not decoded: integers above the greatest one, and doubles that have a
fractional part or do not lie strictly within the bounds. -/
theorem toInt?_eq_none_iff {number : Number} :
    number.toInt? = none ↔
      (∃ value inRange, number = integer value inRange ∧ 2 ^ 63 - 1 < value) ∨
      ∃ value finite, number = float value finite ∧
        (Int.fract number.toRat ≠ 0 ∨ number.toRat ≤ -2 ^ 63 ∨ 2 ^ 63 ≤ number.toRat) := by
  constructor
  · intro missing
    cases number with
    | integer value inRange =>
      refine .inl ⟨value, inRange, rfl, ?_⟩
      by_contra fits
      have isDecoded : (integer value inRange).toInt? = some value :=
        toInt?_integer_eq_some_iff.2 ⟨rfl, not_lt.1 fits⟩
      rw [isDecoded] at missing
      cases missing
    | float value finite =>
      refine .inr ⟨value, finite, rfl, ?_⟩
      by_contra inside
      push Not at inside
      obtain ⟨whole, low, high⟩ := inside
      obtain ⟨integer, isInteger⟩ := Int.fract_eq_zero_iff.1 whole
      rw [← isInteger] at low high
      have isDecoded : (float value finite).toInt? = some integer :=
        toInt?_float_eq_some_iff.2 ⟨isInteger ▸ rationalOf?_eq_toRat, by exact_mod_cast low,
          by exact_mod_cast high⟩
      rw [isDecoded] at missing
      cases missing
  · intro outside
    rw [Option.eq_none_iff_forall_ne_some]
    intro decoded isDecoded
    have same := toRat_of_toInt? isDecoded
    rcases outside with ⟨value, inRange, rfl, large⟩ | ⟨value, finite, rfl, outside⟩
    · have := toInt?_integer_eq_some_iff.1 isDecoded
      omega
    · obtain ⟨-, low, high⟩ := toInt?_float_eq_some_iff.1 isDecoded
      rw [same, Int.fract_intCast] at outside
      rcases outside with fraction | below | above
      · exact fraction rfl
      · exact absurd low (not_lt.2 (by exact_mod_cast below))
      · exact absurd high (not_lt.2 (by exact_mod_cast above))

/-- A number is decoded exactly as the signed integer of 64 bits that it is. An integer is decoded
where it fits, the least one included; a double is decoded where it is an integer strictly within
the bounds. No other number is decoded. The comparisons with the rounded bounds and the cast that
clamps decide no differently, so the cast changes nothing. -/
theorem decoded_exactly (number : Number) :
    (∀ decoded, number.toInt? = some decoded ↔
      (∃ inRange, number = integer decoded inRange ∧ -2 ^ 63 ≤ decoded ∧ decoded ≤ 2 ^ 63 - 1) ∨
      ∃ value finite, number = float value finite ∧ rationalOf? value = some (decoded : ℚ) ∧
        -2 ^ 63 < decoded ∧ decoded < 2 ^ 63) ∧
    (number.toInt? = none ↔
      (∃ value inRange, number = integer value inRange ∧ 2 ^ 63 - 1 < value) ∨
      ∃ value finite, number = float value finite ∧
        (Int.fract number.toRat ≠ 0 ∨ number.toRat ≤ -2 ^ 63 ∨ 2 ^ 63 ≤ number.toRat)) ∧
    (∀ decoded, number.toInt? = some decoded → number.toRat = decoded) ∧
    number.toInt? = number.castInt? :=
  ⟨fun _ => toInt?_eq_some_iff, toInt?_eq_none_iff, fun _ => toRat_of_toInt?,
    toInt?_eq_castInt? number⟩

/-- At the bounds: the greatest double below the upper one is decoded, the doubles at the bounds are
not, and the least integer is. A negative zero is decoded too. -/
theorem bounds_decoded_exactly :
    toInt? (float 9223372036854774784.0 (by decide +kernel)) = some 9223372036854774784 ∧
    toInt? (float 9223372036854775808.0 (by decide +kernel)) = none ∧
    toInt? (float (-9223372036854775808.0) (by decide +kernel)) = none ∧
    toInt? (integer (-9223372036854775808) (by decide)) = some (-9223372036854775808) ∧
    toInt? (float (-0.0) (by decide +kernel)) = some 0 := by
  refine ⟨((decoded_exactly _).1 _).2 (.inr ⟨_, _, rfl, ?_, by decide, by decide⟩),
    (decoded_exactly _).2.1.2 (.inr ⟨_, _, rfl, .inr (.inr ?_)⟩),
    (decoded_exactly _).2.1.2 (.inr ⟨_, _, rfl, .inr (.inl ?_)⟩),
    ((decoded_exactly _).1 _).2 (.inl ⟨_, rfl, by decide, by decide⟩),
    ((decoded_exactly _).1 _).2 (.inr ⟨_, _, rfl, ?_, by decide, by decide⟩)⟩ <;>
  decide +kernel

end Number

end Intake
