import Intake.Proofs.Number.Integral

/-!
# The rational that a double is

A finite double is a rational number; the infinities and NaN are none. `rationalOf?` takes that
number from the floating-point model, apart from the parts that are read off the bits, and
`map_toRat_ofFloat?` says that those parts make the same number. Comparing doubles is comparing
their rationals, a double without its sign is the rational without its sign, and the cast to 64 bits
cuts the rational off toward zero and holds it within the signed integers.
-/

namespace Intake

open Float.Model (UnpackedFloat)
open Float.Model.UnpackedFloat (Sign ExtendedMantissa)

/-- The number that an unpacked double is. -/
def unpackedRational? : UnpackedFloat → Option ℚ
  | .zero _ => some 0
  | .finite sign significand exponent _ => some (sign.apply significand * 2 ^ exponent)
  | .infinity _ | .notANumber => none

/-- The number that a double is, if it is finite. -/
def rationalOf? (value : Float) : Option ℚ := unpackedRational? value.toModel.unpack

theorem rationalOf?_eq_none_iff {value : Float} :
    rationalOf? value = none ↔ value.isNaN = true ∨ value.isInf = true := by
  change _ ↔ value.toModel.unpack.isNaN = true ∨ value.toModel.unpack.isInf = true
  unfold rationalOf?
  cases value.toModel.unpack <;>
    simp [unpackedRational?, UnpackedFloat.isNaN, UnpackedFloat.isInf]

theorem isSome_rationalOf? {value : Float} : (rationalOf? value).isSome = value.isFinite := by
  change _ = value.toModel.unpack.isFinite
  unfold rationalOf?
  cases value.toModel.unpack <;> rfl

/-! ## The number that parts make -/

namespace BinaryValue

/-- The number that parts make. -/
def toRat (value : BinaryValue) : ℚ :=
  (if value.negative then -(value.significand : ℤ) else value.significand : ℤ) *
    2 ^ value.exponent

theorem two_zpow_eq_div (exponent : ℤ) :
    (2 : ℚ) ^ exponent = 2 ^ exponent.toNat / 2 ^ (-exponent).toNat := by
  rw [← zpow_natCast, ← zpow_natCast, ← zpow_sub₀ (by decide)]
  congr 1
  omega

theorem toRat_eq_div (value : BinaryValue) :
    value.toRat = value.scaled.1 / value.scaled.2 := by
  obtain ⟨negative, significand, exponent⟩ := value
  simp only [toRat, scaled, two_zpow_eq_div exponent, Nat.pow_eq]
  cases negative <;> simp only [if_true, if_false, Bool.false_eq_true] <;> push_cast <;> ring

/-- Parts are an integer where the number that they make is that integer. -/
theorem integer?_eq_some_iff {value : BinaryValue} {integer : ℤ} :
    value.integer? = some integer ↔ value.toRat = integer := by
  have positive : 0 < (value.scaled.2 : ℤ) := Int.natCast_pos.2 (Nat.two_pow_pos _)
  have apart : (value.scaled.2 : ℚ) ≠ 0 := by exact_mod_cast positive.ne'
  have whole : (value.scaled.1 : ℚ) = integer * (value.scaled.2 : ℚ) ↔
      value.scaled.1 = integer * value.scaled.2 := by
    exact_mod_cast Iff.rfl
  rw [toRat_eq_div, div_eq_iff apart, whole]
  simp only [integer?, Option.ite_none_right_eq_some, Option.some.injEq]
  constructor
  · rintro ⟨divides, rfl⟩
    exact (Int.ediv_mul_cancel (Int.dvd_of_emod_eq_zero divides)).symm
  · intro same
    rw [same]
    exact ⟨Int.mul_emod_left .., Int.mul_ediv_cancel _ positive.ne'⟩

/-- The parts that are read off the bits of a double make the number that it is. -/
theorem map_toRat_ofFloat? (value : Float) : (ofFloat? value).map toRat = rationalOf? value := by
  rw [ofFloat?_eq_ofUnpacked?, rationalOf?]
  cases value.toModel.unpack with
  | infinity | notANumber => rfl
  | zero sign => cases sign <;> simp [ofUnpacked?, unpackedRational?, toRat]
  | finite sign => cases sign <;> rfl

theorem ofFloat?_eq_none_iff {value : Float} :
    ofFloat? value = none ↔ rationalOf? value = none := by
  rw [← map_toRat_ofFloat?, Option.map_eq_none_iff]

/-- A double is an integer where its parts are. -/
theorem integer?_ofFloat?_eq_some_iff {value : Float} {integer : ℤ} :
    (ofFloat? value).bind integer? = some integer ↔ rationalOf? value = some (integer : ℚ) := by
  rw [← map_toRat_ofFloat?, Option.bind_eq_some_iff, Option.map_eq_some_iff]
  simp only [integer?_eq_some_iff]

/-! ## Comparing doubles -/

section Order

variable {significand significand' : ℕ} {exponent exponent' : ℤ}

theorem size_pos (pos : 0 < significand) (exponent : ℤ) : (0 : ℚ) < significand * 2 ^ exponent :=
  mul_pos (Nat.cast_pos.2 pos) (zpow_pos (by norm_num) exponent)

/-- The double with the greater exponent has the greater size, because it has all 53 bits. -/
theorem Canonical.size_lt (canonical : Canonical significand exponent)
    (canonical' : Canonical significand' exponent') (below : exponent < exponent') :
    (significand : ℚ) * 2 ^ exponent < significand' * 2 ^ exponent' := by
  have high : (significand : ℚ) < 2 ^ 53 := by exact_mod_cast canonical.high
  have full : (2 : ℚ) ^ 52 ≤ significand' := by
    have := canonical.least
    exact_mod_cast canonical'.full.resolve_right (by omega)
  calc (significand : ℚ) * 2 ^ exponent
      < 2 ^ 53 * 2 ^ exponent := by gcongr
    _ = 2 ^ 52 * 2 ^ (exponent + 1) := by rw [zpow_add_one₀ (by decide)]; ring
    _ ≤ 2 ^ 52 * 2 ^ exponent' := by
      gcongr
      · norm_num
      · omega
    _ ≤ significand' * 2 ^ exponent' := by gcongr

/-- Sizes are ordered by the exponents first and by the significands then. -/
theorem Canonical.size_lt_iff (canonical : Canonical significand exponent)
    (canonical' : Canonical significand' exponent') :
    (significand : ℚ) * 2 ^ exponent < significand' * 2 ^ exponent' ↔
      exponent < exponent' ∨ exponent = exponent' ∧ significand < significand' := by
  rcases lt_trichotomy exponent exponent' with below | same | above
  · exact iff_of_true (canonical.size_lt canonical' below) (.inl below)
  · rw [same, mul_lt_mul_iff_left₀ (zpow_pos (by norm_num) _)]
    simp
  · exact iff_of_false (canonical'.size_lt canonical above).not_gt (by omega)

end Order

end BinaryValue

open BinaryValue

/-- What a finite double is unpacked into. -/
theorem exists_unpacked {value : Float} {number : ℚ} (isNumber : rationalOf? value = some number) :
    (∃ sign, value.toModel.unpack = .zero sign ∧ number = 0) ∨
    ∃ sign significand exponent pos, value.toModel.unpack = .finite sign significand exponent pos ∧
      Canonical significand exponent ∧ number = sign.apply significand * 2 ^ exponent := by
  unfold rationalOf? at isNumber
  cases unpacked : value.toModel.unpack with
  | infinity | notANumber =>
    rw [unpacked] at isNumber
    cases isNumber
  | zero sign =>
    rw [unpacked] at isNumber
    exact .inl ⟨sign, rfl, (Option.some.inj isNumber).symm⟩
  | finite sign significand exponent pos =>
    rw [unpacked] at isNumber
    exact .inr ⟨sign, significand, exponent, pos, rfl, canonical_of_unpack unpacked,
      (Option.some.inj isNumber).symm⟩

/-- Finite doubles are compared as the numbers that they are. -/
theorem lt_iff_of_rationalOf? {left right : Float} {less more : ℚ}
    (isLeft : rationalOf? left = some less) (isRight : rationalOf? right = some more) :
    left < right ↔ less < more := by
  change decide (left.toModel.unpack.lt right.toModel.unpack = true) = true ↔ _
  rw [decide_eq_true_iff, UnpackedFloat.lt, beq_iff_eq]
  obtain ⟨_, unpacked, rfl⟩ | ⟨sign, significand, exponent, pos, unpacked, canonical, rfl⟩ :=
    exists_unpacked isLeft <;>
  obtain ⟨_, unpacked', rfl⟩ | ⟨sign', significand', exponent', pos', unpacked', canonical', rfl⟩ :=
    exists_unpacked isRight <;>
  rw [unpacked, unpacked']
  -- Zeros are equal, whatever their signs, and lie between the negative and the positive doubles.
  · simp [UnpackedFloat.compare]
  · have size := size_pos pos' exponent'
    cases sign' <;> simp [UnpackedFloat.compare, Sign.apply, size, size.le]
  · have size := size_pos pos exponent
    cases sign <;> simp [UnpackedFloat.compare, Sign.apply, size, size.le]
  · have size := size_pos pos exponent
    have size' := size_pos pos' exponent'
    cases sign <;> cases sign' <;>
      simp only [UnpackedFloat.compare, Sign.apply, Int.cast_neg, Int.cast_natCast, neg_mul,
        neg_lt_neg_iff, Option.some_inj]
    · -- Of two negative doubles the one of greater size is less.
      rw [canonical'.size_lt_iff canonical, Ordering.swap_eq_lt, Ordering.then_eq_gt,
        compare_gt_iff_gt, compare_gt_iff_gt, compare_eq_iff_eq, @eq_comm _ exponent]
    · exact iff_of_true trivial (by linarith)
    · exact iff_of_false (by decide) (by linarith)
    · rw [canonical.size_lt_iff canonical', Ordering.then_eq_lt, compare_lt_iff_lt,
        compare_lt_iff_lt, compare_eq_iff_eq]

/-- A double without its sign is the number without its sign. -/
theorem rationalOf?_abs {value : Float} {number : ℚ} (isNumber : rationalOf? value = some number) :
    rationalOf? value.abs = some |number| := by
  change unpackedRational? (Float.Model.pack value.toModel.unpack.abs).unpack = _
  obtain ⟨_, unpacked, rfl⟩ | ⟨sign, significand, exponent, pos, unpacked, canonical, rfl⟩ :=
    exists_unpacked isNumber <;>
  rw [unpacked, UnpackedFloat.abs]
  · rw [abs_zero]
    decide +kernel
  · have size := size_pos pos exponent
    rw [unpack_pack_of_canonical canonical]
    cases sign <;> simp [unpackedRational?, Sign.apply, abs_of_pos size]

/-! ## The cast to 64 bits -/

/-- The signed integer of 64 bits that a double is cast to. -/
def castInt (value : Float) : ℤ := value.toModel.toInt64.toInt

/-- The integer that is left of a number when it is cut off toward zero. -/
def truncate (number : ℚ) : ℤ := if number < 0 then ⌈number⌉ else ⌊number⌋

theorem truncate_intCast (integer : ℤ) : truncate integer = integer := by
  simp [truncate]

theorem toInt_ofIntClamp_eq (integer : ℤ) :
    (Int64.ofIntClamp integer).toInt = max (-2 ^ 63) (min (2 ^ 63 - 1) integer) := by
  have least : Int64.minValue.toInt = -2 ^ 63 := by decide
  have greatest : Int64.maxValue.toInt = 2 ^ 63 - 1 := by decide
  unfold Int64.ofIntClamp
  split
  · split
    · rw [Int64.toInt_ofIntLE]
      omega
    · omega
  · omega

/-- The size of a double is cut off by dividing by the power of two that it is too fine. -/
theorem roundToInt_eq_truncate (sign : Sign) {significand : ℕ} (pos : 0 < significand)
    (exponent : ℤ) : UnpackedFloat.roundToInt sign significand exponent =
      truncate (sign.apply significand * 2 ^ exponent) := by
  have shifted : (0 - (exponent - exponent.toNat)).toNat = (-exponent).toNat := by omega
  have cut : ⌊(significand : ℚ) * 2 ^ exponent⌋ =
      ↑(significand * 2 ^ exponent.toNat / 2 ^ (-exponent).toNat) := by
    rw [two_zpow_eq_div, ← mul_div_assoc]
    simpa using Rat.floor_natCast_div_natCast (significand * 2 ^ exponent.toNat)
      (2 ^ (-exponent).toNat)
  simp only [UnpackedFloat.roundToInt, UnpackedFloat.decreaseExponent,
    UnpackedFloat.shiftToExponent, Int.sub_zero, shifted, mantissa_shiftRight,
    ExtendedMantissa.ofMantissaAndAccuracy, Nat.shiftLeft_eq, ← cut]
  have size := size_pos pos exponent
  cases sign <;> simp [Sign.apply, truncate, size, size.le, Int.ceil_neg]

/-- The cast cuts a double off toward zero and holds it within the bounds. -/
theorem castInt_eq {value : Float} {number : ℚ} (isNumber : rationalOf? value = some number) :
    castInt value = max (-2 ^ 63) (min (2 ^ 63 - 1) (truncate number)) := by
  change (Int64.ofIntClamp (value.toModel.unpack.toInt _ _)).toInt = _
  rw [toInt_ofIntClamp_eq]
  obtain ⟨_, unpacked, rfl⟩ | ⟨sign, significand, exponent, pos, unpacked, -, rfl⟩ :=
    exists_unpacked isNumber <;>
  rw [unpacked, UnpackedFloat.toInt]
  · rfl
  · rw [roundToInt_eq_truncate sign pos]

/-- Without a guard the cast changes what has a fractional part and what lies beyond the bounds. -/
example : castInt (-2.5) = -2 ∧ castInt 1e300 = 2 ^ 63 - 1 := by decide +kernel

/-- An integer within the bounds is cast to itself. -/
theorem castInt_of_inside {value : Float} {integer : ℤ}
    (isInteger : rationalOf? value = some (integer : ℚ))
    (low : -2 ^ 63 ≤ integer) (high : integer < 2 ^ 63) : castInt value = integer := by
  rw [castInt_eq isInteger, truncate_intCast]
  omega

/-! ## Whole doubles within 64 bits -/

/-- The double has no fractional part. -/
def IsWhole (value : Float) : Prop := (rationalOf? value).map Int.fract = some 0

instance (value : Float) : Decidable (IsWhole value) :=
  inferInstanceAs (Decidable ((rationalOf? value).map Int.fract = some 0))

theorem isWhole_iff {value : Float} :
    IsWhole value ↔ ∃ integer : ℤ, rationalOf? value = some (integer : ℚ) := by
  simp only [IsWhole, Option.map_eq_some_iff, Int.fract_eq_zero_iff, Set.mem_range]
  constructor
  · rintro ⟨_, isNumber, integer, rfl⟩
    exact ⟨integer, isNumber⟩
  · rintro ⟨integer, isInteger⟩
    exact ⟨_, isInteger, integer, rfl⟩

/-- The greatest signed integer of 64 bits is rounded up to the first one that does not fit. -/
theorem rationalOf?_greatest : rationalOf? (Number.floatOfInt (2 ^ 63 - 1)) = some (2 ^ 63) := by
  decide +kernel

theorem rationalOf?_least : rationalOf? (Number.floatOfInt (-2 ^ 63)) = some (-2 ^ 63) := by
  decide +kernel

/-- The comparisons with the rounded bounds hold strictly within the bounds. -/
theorem between_bounds_iff {value : Float} {integer : ℤ}
    (isInteger : rationalOf? value = some (integer : ℚ)) :
    (Number.floatOfInt (-2 ^ 63) < value ∧ value < Number.floatOfInt (2 ^ 63 - 1)) ↔
      -2 ^ 63 < integer ∧ integer < 2 ^ 63 := by
  rw [lt_iff_of_rationalOf? rationalOf?_least isInteger,
    lt_iff_of_rationalOf? isInteger rationalOf?_greatest]
  norm_cast

theorem abs_lt_greatest_iff {value : Float} {integer : ℤ}
    (isInteger : rationalOf? value = some (integer : ℚ)) :
    value.abs < Number.floatOfInt (2 ^ 63 - 1) ↔ |integer| < 2 ^ 63 := by
  rw [lt_iff_of_rationalOf? (rationalOf?_abs isInteger) rationalOf?_greatest]
  norm_cast

end Intake
