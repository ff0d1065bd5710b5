import Intake.Number.Basic
import Intake.Proofs.Number.Binary

/-!
# Integers as doubles

An integer of at most 64 bits becomes a normal double. Its significand has 53 bits, so the double is
the integer exactly where the integer is such a significand followed by zeros, which is what
`FitsDouble` says. `integer?_floatOfInt` is the main statement: the double of an integer is always
integral, it is an integer that fits, and it is the same integer where that one fits.
-/

namespace Intake

open Float.Model (Format UnpackedFloat)
open Float.Model.UnpackedFloat (Accuracy ExtendedMantissa)

/-- The binary digits of the integer are at most 53 followed by zeros. -/
def FitsDouble (value : Int) : Prop :=
  ∃ significand places : Nat, significand < 2 ^ 53 ∧ value.natAbs = significand * 2 ^ places

theorem fitsDouble_natAbs {value other : Int} (same : value.natAbs = other.natAbs) :
    FitsDouble value ↔ FitsDouble other := by
  simp only [FitsDouble, same]

/-! ## Shifting and rounding a significand -/

theorem mantissa_shiftRight (extended : ExtendedMantissa) (places : Nat) :
    (extended >>> places).mantissa = extended.mantissa / 2 ^ places := by
  change (places.repeat ExtendedMantissa.shiftRightOne extended).mantissa = _
  induction places with
  | zero => simp [Nat.repeat]
  | succ places ih =>
    simp only [Nat.repeat, ExtendedMantissa.shiftRightOne, ih]
    rw [Nat.div_div_eq_div_mul, ← Nat.pow_succ]

/-- Zeros that are shifted out leave no trace. -/
theorem shiftRight_zeros (significand places : Nat) :
    (⟨significand * 2 ^ places, false, false⟩ : ExtendedMantissa) >>> places =
      ⟨significand, false, false⟩ := by
  change places.repeat ExtendedMantissa.shiftRightOne _ = _
  induction places generalizing significand with
  | zero => simp [Nat.repeat]
  | succ places ih =>
    have regrouped : significand * 2 ^ (places + 1) = significand * 2 * 2 ^ places := by
      rw [Nat.pow_succ]
      ac_rfl
    simp only [Nat.repeat, regrouped, ih]
    simp [ExtendedMantissa.shiftRightOne]

/-- Rounding to the nearest adds at most one unit. -/
theorem roundedMantissa_bounds (extended : ExtendedMantissa) :
    extended.mantissa ≤ extended.roundedMantissa ∧
      extended.roundedMantissa ≤ extended.mantissa + 1 := by
  obtain ⟨mantissa, _ | _, _ | _⟩ := extended <;>
    simp only [ExtendedMantissa.roundedMantissa, ExtendedMantissa.accuracy,
      Accuracy.roundToNearestEven] <;> omega

theorem targetExponent_eq (mantissa : Nat) (exponent : Int)
    (large : -1074 ≤ (mantissa.log2 : Int) + exponent - 52) :
    Format.binary64.targetExponent (Float.Model.totalExponent mantissa exponent) =
      mantissa.log2 + exponent - 52 := by
  change max (((mantissa.log2 : Int) + 1 + exponent) - 53) (3 - 1024 - 53) = _
  omega

/-- A significand that is too long by some places is shifted by these places. -/
theorem shiftToTargetExponent_eq {mantissa : Nat} {exponent : Int} (places : Nat)
    (long : mantissa.log2 = 52 + places) (least : -1074 ≤ exponent) :
    UnpackedFloat.shiftToTargetExponent .binary64 mantissa exponent .exact =
      ((⟨mantissa, false, false⟩ : ExtendedMantissa) >>> places, exponent + places) := by
  have amount : ((mantissa.log2 : Int) + exponent - 52 - exponent).toNat = places := by omega
  simp only [UnpackedFloat.shiftToTargetExponent, UnpackedFloat.shiftToExponent,
    targetExponent_eq mantissa exponent (by omega), amount,
    ExtendedMantissa.ofMantissaAndAccuracy]

/-- What is some places too long is not zero. -/
theorem ne_zero_of_log2 {value places : Nat} (long : value.log2 = 52 + places) : value ≠ 0 := by
  rintro rfl
  simp at long
  omega

/-- A significand that is shifted by the places that it is too long has 53 bits left. -/
theorem shifted_bounds {mantissa places : Nat} (long : mantissa.log2 = 52 + places) :
    2 ^ 52 ≤ ((⟨mantissa, false, false⟩ : ExtendedMantissa) >>> places).mantissa ∧
      ((⟨mantissa, false, false⟩ : ExtendedMantissa) >>> places).mantissa < 2 ^ 53 := by
  obtain ⟨low, high⟩ := (Nat.log2_eq_iff (ne_zero_of_log2 long)).1 long
  rw [mantissa_shiftRight]
  constructor
  · rw [Nat.le_div_iff_mul_le (Nat.two_pow_pos places), ← Nat.pow_add]
    exact low
  · rw [Nat.div_lt_iff_lt_mul (Nat.two_pow_pos places), ← Nat.pow_add]
    rwa [show 53 + places = 52 + places + 1 by omega]

/-- Rounding to 53 bits: the result is normal, it is at most one power of two higher, and it is
what is left of the significand where only zeros are cut off. -/
theorem roundWithAccuracy_eq {mantissa places : Nat} (exponent : Int)
    (long : mantissa.log2 = 52 + places) (least : -1074 ≤ exponent)
    (greatest : exponent + places < 971) :
    ∃ (kept above : Nat) (normal : BinaryValue.Normal kept (exponent + above)),
      UnpackedFloat.roundWithAccuracy .binary64 .positive mantissa exponent .exact =
        .finite .positive kept (exponent + above) normal.pos ∧
      places ≤ above ∧ kept * 2 ^ above ≤ 2 ^ (53 + places) ∧
      ∀ significand, mantissa = significand * 2 ^ places →
        kept = significand ∧ above = places := by
  have first := shiftToTargetExponent_eq places long least
  obtain ⟨above, below⟩ := shifted_bounds long
  generalize isExtended : (⟨mantissa, false, false⟩ : ExtendedMantissa) >>> places = extended
    at first above below
  obtain ⟨notBelow, notAbove⟩ := roundedMantissa_bounds extended
  -- Either the rounded significand still has 53 bits, or it is the power of two beyond them.
  rcases Nat.lt_or_ge extended.roundedMantissa (2 ^ 53) with short | carried
  · have normal : BinaryValue.Normal extended.roundedMantissa (exponent + places) :=
      ⟨by omega, short, by omega, by omega⟩
    refine ⟨extended.roundedMantissa, places, normal, ?_, Nat.le_refl places, ?_, ?_⟩
    · have second := shiftToTargetExponent_eq 0 normal.log2_eq normal.least
      have unshifted : (⟨extended.roundedMantissa, false, false⟩ : ExtendedMantissa) >>> 0 =
          ⟨extended.roundedMantissa, false, false⟩ := rfl
      simp only [UnpackedFloat.roundWithAccuracy, first, second, unshifted,
        Nat.ne_of_gt normal.pos, dif_neg, not_false_eq_true]
      simp
    · rw [Nat.pow_add]
      exact Nat.mul_le_mul_right _ (Nat.le_of_lt short)
    · rintro significand rfl
      rw [shiftRight_zeros] at isExtended
      exact ⟨by rw [← isExtended]; rfl, rfl⟩
  · have power : extended.roundedMantissa = 2 ^ 53 := by omega
    have normal : BinaryValue.Normal (2 ^ 52) (exponent + (places + 1 : Nat)) :=
      ⟨by omega, by decide, by omega, by omega⟩
    refine ⟨2 ^ 52, places + 1, normal, ?_, Nat.le_succ places, ?_, ?_⟩
    · have second : UnpackedFloat.shiftToTargetExponent .binary64 (2 ^ 53) (exponent + places)
          .exact = (⟨2 ^ 52, false, false⟩, exponent + places + (1 : Nat)) :=
        shiftToTargetExponent_eq 1 (by decide) (by omega)
      simp only [UnpackedFloat.roundWithAccuracy, first, power, second]
      simp [Int.add_assoc]
    · rw [← Nat.pow_add]
      exact Nat.le_of_eq (congrArg _ (by omega))
    · rintro significand rfl
      rw [shiftRight_zeros] at isExtended
      subst isExtended
      exact absurd carried (Nat.not_le_of_lt below)

/-! ## Naturals as doubles -/

theorem log2_mul_two_pow {value : Nat} (pos : 0 < value) (places : Nat) :
    (value * 2 ^ places).log2 = value.log2 + places := by
  obtain ⟨low, high⟩ := (Nat.log2_eq_iff (Nat.ne_of_gt pos)).1 (rfl : value.log2 = value.log2)
  rw [Nat.log2_eq_iff (Nat.ne_of_gt (Nat.mul_pos pos (Nat.two_pow_pos places))),
    Nat.add_right_comm, Nat.pow_add, Nat.pow_add]
  exact ⟨Nat.mul_le_mul_right _ low, Nat.mul_lt_mul_of_pos_right high (Nat.two_pow_pos places)⟩

/-- A natural that fits is a multiple of the power of two by which it is too long. -/
theorem FitsDouble.eq_mul {value places : Nat} (fits : FitsDouble value)
    (long : value.log2 = 52 + places) : ∃ significand, value = significand * 2 ^ places := by
  obtain ⟨significand, zeros, short, same⟩ := fits
  rw [Int.natAbs_natCast] at same
  have low := (Nat.log2_eq_iff (ne_zero_of_log2 long)).1 long |>.1
  have enough : places ≤ zeros := by
    have : 2 ^ (52 + places) < 2 ^ (53 + zeros) := by
      calc 2 ^ (52 + places) ≤ significand * 2 ^ zeros := same ▸ low
        _ < 2 ^ 53 * 2 ^ zeros := Nat.mul_lt_mul_of_pos_right short (Nat.two_pow_pos zeros)
        _ = 2 ^ (53 + zeros) := (Nat.pow_add 2 53 zeros).symm
    have := (Nat.pow_lt_pow_iff_right (by decide : 1 < 2)).1 this
    omega
  refine ⟨significand * 2 ^ (zeros - places), ?_⟩
  rw [same, Nat.mul_assoc, ← Nat.pow_add, Nat.sub_add_cancel enough]

/-- A natural with fewer than 53 bits is filled up with zeros before it is rounded. -/
theorem ofNat_eq_round {value : Nat} (pos : 0 < value) :
    UnpackedFloat.ofNat .binary64 value =
      UnpackedFloat.roundWithAccuracy .binary64 .positive (value * 2 ^ (52 - value.log2))
        (-((52 - value.log2 : Nat) : Int)) .exact := by
  have positive : compare (value : Int) 0 = .gt := by
    rw [Int.compare_eq_gt]
    omega
  have lowered : UnpackedFloat.decreaseExponent value 0 (value.log2 + 0 - 52) =
      (value * 2 ^ (52 - value.log2), -((52 - value.log2 : Nat) : Int)) := by
    have amount : ((0 : Int) - (value.log2 + 0 - 52)).toNat = 52 - value.log2 := by omega
    rw [UnpackedFloat.decreaseExponent, amount, Nat.shiftLeft_eq, Int.zero_sub]
  have unfolded : UnpackedFloat.ofNat .binary64 value =
      UnpackedFloat.round .binary64 .positive value 0 := by
    simp [UnpackedFloat.ofNat, UnpackedFloat.ofInt, UnpackedFloat.normalize, positive]
  simp only [unfolded, UnpackedFloat.round, targetExponent_eq value 0 (by omega), lowered]

/-- A natural becomes a normal double of an integer that fits, and of itself if it fits. -/
theorem ofNat_eq {value : Nat} (pos : 0 < value) (small : value.log2 < 900) :
    ∃ (rounded significand : Nat) (exponent : Int)
      (normal : BinaryValue.Normal significand exponent),
      UnpackedFloat.ofNat .binary64 value = .finite .positive significand exponent normal.pos ∧
      significand * 2 ^ exponent.toNat = rounded * 2 ^ (-exponent).toNat ∧
      rounded ≤ 2 ^ (value.log2 + 1) ∧ FitsDouble rounded ∧
      (FitsDouble value → rounded = value) := by
  have high := ((Nat.log2_eq_iff (Nat.ne_of_gt pos)).1 (rfl : value.log2 = value.log2)).2
  rw [ofNat_eq_round pos]
  rcases Nat.le_total value.log2 52 with short | long
  · -- A short natural is kept.
    obtain ⟨gap, isGap⟩ := Nat.exists_eq_add_of_le short
    have filled : (value * 2 ^ gap).log2 = 52 + 0 := by
      rw [log2_mul_two_pow pos, ← isGap]
    obtain ⟨kept, above, normal, rounds, -, -, cut⟩ :=
      roundWithAccuracy_eq (-(gap : Int)) filled (by omega) (by omega)
    obtain ⟨isKept, isAbove⟩ := cut (value * 2 ^ gap) (by simp)
    refine ⟨value, kept, -(gap : Int) + above, normal, ?_, ?_, Nat.le_of_lt high, ?_, fun _ => rfl⟩
    · rw [show 52 - value.log2 = gap by omega, rounds]
    · have powers : (-(gap : Int) + above).toNat = 0 ∧ (-(-(gap : Int) + above)).toNat = gap := by
        omega
      rw [powers.1, powers.2, isKept, Nat.pow_zero, Nat.mul_one]
    · refine ⟨value, 0, Nat.lt_of_lt_of_le high ?_, by simp⟩
      exact Nat.pow_le_pow_right (by decide) (by omega)
  · obtain ⟨places, isPlaces⟩ := Nat.exists_eq_add_of_le long
    obtain ⟨kept, above, normal, rounds, notBelow, bounded, cut⟩ :=
      roundWithAccuracy_eq 0 isPlaces (by decide) (by omega)
    refine ⟨kept * 2 ^ above, kept, 0 + above, normal, ?_, ?_, ?_, ?_, ?_⟩
    · rw [Nat.sub_eq_zero_of_le long, Nat.pow_zero, Nat.mul_one]
      exact rounds
    · have : (0 + (above : Int)).toNat = above ∧ (-(0 + (above : Int))).toNat = 0 := by omega
      rw [this.1, this.2, Nat.pow_zero, Nat.mul_one]
    · rwa [show value.log2 + 1 = 53 + places by omega]
    · exact ⟨kept, above, normal.high, Int.natAbs_natCast _⟩
    · intro fits
      obtain ⟨significand, same⟩ := fits.eq_mul isPlaces
      obtain ⟨isKept, isAbove⟩ := cut significand same
      rw [isKept, isAbove, same]

/-! ## Integers as doubles -/

namespace BinaryValue

/-- A normal double is determined by the natural that it is. -/
theorem Normal.unique {value significand other : Nat} {exponent power : Int}
    (normal : Normal significand exponent) (normal' : Normal other power)
    (isValue : significand * 2 ^ exponent.toNat = value * 2 ^ (-exponent).toNat)
    (isValue' : other * 2 ^ power.toNat = value * 2 ^ (-power).toNat) :
    significand = other ∧ exponent = power := by
  have length {part : Nat} {place : Int} (normal : Normal part place)
      (isValue : part * 2 ^ place.toNat = value * 2 ^ (-place).toNat) :
      (value.log2 : Int) = 52 + place := by
    have pos : 0 < value := by
      have : 0 < value * 2 ^ (-place).toNat :=
        isValue ▸ Nat.mul_pos normal.pos (Nat.two_pow_pos _)
      exact Nat.pos_of_mul_pos_right this
    have := congrArg Nat.log2 isValue
    rw [log2_mul_two_pow normal.pos, log2_mul_two_pow pos, normal.log2_eq] at this
    omega
  have same : exponent = power := by
    have left := length normal isValue
    have right := length normal' isValue'
    omega
  subst same
  exact ⟨Nat.eq_of_mul_eq_mul_right (Nat.two_pow_pos _) (isValue.trans isValue'.symm), rfl⟩

/-- The integer that parts make. -/
theorem integer?_eq {value significand : Nat} {exponent : Int} (negative : Bool)
    (isValue : significand * 2 ^ exponent.toNat = value * 2 ^ (-exponent).toNat) :
    integer? ⟨negative, significand, exponent⟩ =
      some (if negative then -(value : Int) else value) := by
  have apart : ((2 ^ (-exponent).toNat : Nat) : Int) ≠ 0 :=
    Int.natCast_ne_zero.2 (Nat.ne_of_gt (Nat.two_pow_pos _))
  have shape : scaled ⟨negative, significand, exponent⟩ =
      ((if negative then -(value : Int) else value) * (2 ^ (-exponent).toNat : Nat),
        2 ^ (-exponent).toNat) := by
    simp only [scaled, Nat.pow_eq, isValue, Int.natCast_mul]
    cases negative with
    | false => rfl
    | true => simp only [if_true, Int.neg_mul]
  simp only [integer?, shape, Int.mul_emod_left, if_true, Int.mul_ediv_cancel _ apart]

/-- The size of the integer that parts are. -/
theorem natAbs_of_integer? {negative : Bool} {significand : Nat} {exponent integer : Int}
    (isInteger : integer? ⟨negative, significand, exponent⟩ = some integer) :
    integer.natAbs * 2 ^ (-exponent).toNat = significand * 2 ^ exponent.toNat := by
  simp only [integer?, scaled, Nat.pow_eq, Option.ite_none_right_eq_some, Option.some.injEq]
    at isInteger
  obtain ⟨divides, isQuotient⟩ := isInteger
  have undone := Int.ediv_mul_cancel (Int.dvd_of_emod_eq_zero divides)
  rw [isQuotient] at undone
  have := congrArg Int.natAbs undone
  rw [Int.natAbs_mul, Int.natAbs_natCast] at this
  rw [this]
  split <;> simp only [Int.natAbs_neg, Int.natAbs_natCast]

end BinaryValue

namespace Number

open BinaryValue

/-- The sign of an integer. -/
def signOf (value : Int) : UnpackedFloat.Sign := if value < 0 then .negative else .positive

/-- An integer other than zero becomes a normal double with its sign. -/
theorem floatOfInt_parts {count : Int} (nonzero : count ≠ 0) (small : count.natAbs < 2 ^ 64) :
    ∃ (rounded significand : Nat) (exponent : Int) (normal : Normal significand exponent),
      floatOfInt count =
        ⟨Float.Model.pack (.finite (signOf count) significand exponent normal.pos)⟩ ∧
      significand * 2 ^ exponent.toNat = rounded * 2 ^ (-exponent).toNat ∧
      rounded ≤ 2 ^ (count.natAbs.log2 + 1) ∧ FitsDouble rounded ∧
      (FitsDouble count → rounded = count.natAbs) := by
  have pos : 0 < count.natAbs := Int.natAbs_pos.2 nonzero
  have length : count.natAbs.log2 < 64 := (Nat.log2_lt (Nat.ne_of_gt pos)).2 small
  obtain ⟨rounded, significand, exponent, normal, parts, isRounded, bounded, fits, exact⟩ :=
    ofNat_eq pos (by omega)
  refine ⟨rounded, significand, exponent, normal, ?_, isRounded, bounded, fits, fun given =>
    exact ((fitsDouble_natAbs (Int.natAbs_natCast _)).2 given)⟩
  have size : count.natAbs.toUInt64.toFloat =
      ⟨Float.Model.pack (.finite .positive significand exponent normal.pos)⟩ := by
    change (⟨Float.Model.pack (UnpackedFloat.ofNat .binary64 count.natAbs.toUInt64.toNat)⟩ :
      Float) = _
    rw [Nat.toUInt64_eq, UInt64.toNat_ofNat', Nat.mod_eq_of_lt small, parts]
  by_cases negative : count < 0
  · simp only [floatOfInt, signOf, negative, if_true, size, pack_neg normal]
    rfl
  · simp only [floatOfInt, signOf, negative, if_false, size]

/-- The double of an integer of at most 64 bits is finite. -/
theorem isFinite_floatOfInt {count : Int} (small : count.natAbs < 2 ^ 64) :
    (floatOfInt count).isFinite = true := by
  rcases Decidable.em (count = 0) with rfl | nonzero
  · decide
  obtain ⟨_, _, _, normal, parts, -⟩ := floatOfInt_parts nonzero small
  rw [parts]
  change (Float.Model.unpack _).isFinite = true
  rw [unpack_pack normal]
  rfl

theorem signOf_beq_negative (value : Int) :
    (signOf value == .negative) = decide (value < 0) := by
  unfold signOf
  by_cases negative : value < 0 <;> simp only [negative, if_true, if_false, decide_true,
    decide_false] <;> rfl

theorem signOf_signed {count : Int} {size : Nat} (pos : 0 < size) :
    signOf (if count < 0 then -(size : Int) else size) = signOf count := by
  unfold signOf
  by_cases negative : count < 0
  · have below : -(size : Int) < 0 := by omega
    simp only [negative, below, if_true]
  · have above : ¬(size : Int) < 0 := by omega
    simp only [negative, above, if_false]

/-- The double of a signed integer of 64 bits is an integer that fits, it is the double of that
integer too, and it is the same integer where that one fits. -/
theorem integer?_floatOfInt {count : Int} (small : count.natAbs ≤ 2 ^ 63) :
    ∃ rounded, (ofFloat? (floatOfInt count)).bind integer? = some rounded ∧
      floatOfInt count = floatOfInt rounded ∧ FitsDouble rounded ∧ rounded.natAbs ≤ 2 ^ 63 ∧
      (FitsDouble count → rounded = count) := by
  rcases Decidable.em (count = 0) with rfl | nonzero
  · exact ⟨0, by decide +kernel, rfl, ⟨0, 0, by decide, rfl⟩, by decide, fun _ => rfl⟩
  obtain ⟨size, significand, exponent, normal, parts, isRounded, bounded, fits, exact⟩ :=
    floatOfInt_parts nonzero (by omega)
  obtain ⟨rounded, isSigned⟩ : ∃ rounded : Int,
    rounded = if count < 0 then -(size : Int) else size := ⟨_, rfl⟩
  have sized : rounded.natAbs = size := by
    rw [isSigned]
    split <;> simp
  have pos : 0 < size := by
    have : 0 < size * 2 ^ (-exponent).toNat :=
      isRounded ▸ Nat.mul_pos normal.pos (Nat.two_pow_pos _)
    exact Nat.pos_of_mul_pos_right this
  have least : size ≤ 2 ^ 63 := by
    rcases Nat.eq_or_lt_of_le small with extreme | inside
    · rw [exact ⟨1, 63, by decide, by omega⟩]
      exact small
    · have := (Nat.log2_lt (Int.natAbs_ne_zero.2 nonzero)).2 inside
      exact Nat.le_trans bounded (Nat.pow_le_pow_right (by decide) (by omega))
  have fits' : FitsDouble rounded := (fitsDouble_natAbs (by simp [sized])).1 fits
  refine ⟨rounded, ?_, ?_, fits', by omega, fun given => ?_⟩
  · rw [parts, ofFloat?_pack normal, Option.bind_some, integer?_eq _ isRounded, isSigned]
    simp only [signOf_beq_negative, decide_eq_true_eq]
  · have nonzero' : rounded ≠ 0 := by omega
    obtain ⟨size', significand', exponent', normal', parts', isRounded', -, -, exact'⟩ :=
      floatOfInt_parts nonzero' (by omega)
    have same : size' = size := (exact' fits').trans sized
    obtain ⟨rfl, rfl⟩ := normal.unique normal' isRounded (same ▸ isRounded')
    rw [parts, parts', isSigned, signOf_signed pos]
  · rw [isSigned, exact given]
    split <;> omega

/-- Every double that is integral is an integer that fits. -/
theorem fitsDouble_of_integer? {value : Float} {integer : Int}
    (isInteger : (ofFloat? value).bind integer? = some integer) : FitsDouble integer := by
  obtain ⟨⟨negative, significand, exponent⟩, isExact, isInteger⟩ :=
    Option.bind_eq_some_iff.1 isInteger
  have short := (canonical_of_ofFloat? isExact).high
  have same := natAbs_of_integer? isInteger
  rcases Int.le_total 0 exponent with large | small
  · have unscaled : (-exponent).toNat = 0 := by omega
    rw [unscaled, Nat.pow_zero, Nat.mul_one] at same
    exact ⟨significand, exponent.toNat, short, same⟩
  · have unscaled : exponent.toNat = 0 := by omega
    rw [unscaled, Nat.pow_zero, Nat.mul_one] at same
    have shorter : integer.natAbs ≤ significand :=
      same ▸ Nat.le_mul_of_pos_right _ (Nat.two_pow_pos _)
    exact ⟨integer.natAbs, 0, Nat.lt_of_le_of_lt shorter short, (Nat.mul_one _).symm⟩

end Number

end Intake
