import Intake.Number.Binary
import Mathlib

/-!
# The parts of a double

A finite double is kept as the bits of a sign, a significand and an exponent.
`ofFloat?_eq_ofUnpacked?` says that the parts which are read off the bits are those that the
floating-point model unpacks, for every double. In the other direction `unpack_pack_of_canonical`
says that a double made of the parts of some double has these parts. The lemmas about the model
itself come with no smaller part of the library, which is why it is imported whole.
-/

namespace Intake.BinaryValue

open Float.Model (Format UnpackedFloat)
open Float.Model.UnpackedFloat (Sign)

/-! ## Reading the parts -/

theorem toNat_unpackExponent (bits : BitVec 64) :
    (@UnpackedFloat.unpackExponent .binary64 bits).toNat =
      bits.toNat / 0x10000000000000 % 0x800 := by
  rw [UnpackedFloat.unpackExponent_def, BitVec.extractLsb'_toNat, Nat.shiftRight_eq_div_pow]
  rfl

theorem toNat_unpackMantissa (bits : BitVec 64) :
    (@UnpackedFloat.unpackMantissa .binary64 bits).toNat = bits.toNat % 0x10000000000000 := by
  rw [UnpackedFloat.unpackMantissa_def, BitVec.extractLsb'_toNat, Nat.shiftRight_zero]
  rfl

theorem ofBitVec_unpackSign (bits : BitVec 64) :
    (Sign.ofBitVec (@UnpackedFloat.unpackSign .binary64 bits) == .negative) =
      decide (bits.toNat / 0x8000000000000000 = 1) := by
  have top : (@UnpackedFloat.unpackSign .binary64 bits).toNat =
      bits.toNat / 0x8000000000000000 := by
    rw [UnpackedFloat.unpackSign_def, BitVec.extractLsb'_toNat, Nat.shiftRight_eq_div_pow]
    have := bits.isLt
    change bits.toNat / 2 ^ 63 % 2 ^ 1 = _
    omega
  rw [← top]
  generalize @UnpackedFloat.unpackSign .binary64 bits = sign
  revert sign
  decide

/-- A significand with its first bit put in front. -/
theorem toNat_whole (fraction : BitVec 52) :
    (1#1 ++ fraction).toNat = fraction.toNat + 0x10000000000000 := by
  rw [BitVec.toNat_append, ← Nat.shiftLeft_add_eq_or_of_lt fraction.isLt, Nat.shiftLeft_eq,
    Nat.add_comm]
  rfl

/-- The parts of an unpacked double. Zero is counted among the least doubles. -/
def ofUnpacked? : UnpackedFloat → Option BinaryValue
  | .zero sign => some ⟨sign == .negative, 0, -1074⟩
  | .finite sign significand exponent _ => some ⟨sign == .negative, significand, exponent⟩
  | .infinity _ | .notANumber => none

/-- The parts that are read off the bits of a double are the unpacked ones. -/
theorem ofFloat?_eq_ofUnpacked? (value : Float) :
    ofFloat? value = ofUnpacked? value.toModel.unpack := by
  change _ = ofUnpacked? (UnpackedFloat.unpack .binary64 value.toBits.toBitVec)
  unfold ofFloat? UnpackedFloat.unpack
  rw [← UInt64.toNat_toBitVec]
  generalize value.toBits.toBitVec = bits
  have field := toNat_unpackExponent bits
  have fraction := toNat_unpackMantissa bits
  have isTop : @UnpackedFloat.unpackExponent .binary64 bits = -1#11 ↔
      bits.toNat / 0x10000000000000 % 0x800 = 2047 := by
    rw [← BitVec.toNat_inj, field]
    rfl
  have isBottom : @UnpackedFloat.unpackExponent .binary64 bits = 0#11 ↔
      bits.toNat / 0x10000000000000 % 0x800 = 0 := by
    rw [← BitVec.toNat_inj, field]
    rfl
  have isZero : @UnpackedFloat.unpackMantissa .binary64 bits = 0#52 ↔
      bits.toNat % 0x10000000000000 = 0 := by
    rw [← BitVec.toNat_inj, fraction]
    rfl
  simp only [isTop, isBottom, isZero]
  split
  · split <;> rfl
  split
  · split
    · rename_i zero
      simp only [ofUnpacked?, ofBitVec_unpackSign, zero]
    · rename_i bottom _
      simp only [ofUnpacked?, ofBitVec_unpackSign, fraction, field, bottom]
      rfl
  · simp only [ofUnpacked?, ofBitVec_unpackSign, toNat_whole, fraction, field]
    rfl

/-- The significand has at most 53 bits, and fewer only with the least exponent. -/
structure Canonical (significand : Nat) (exponent : Int) : Prop where
  high : significand < 2 ^ 53
  least : -1074 ≤ exponent
  greatest : exponent ≤ 971
  full : 2 ^ 52 ≤ significand ∨ exponent = -1074

theorem canonical_of_ofFloat? {value : Float} {exact : BinaryValue}
    (isExact : ofFloat? value = some exact) : Canonical exact.significand exact.exponent := by
  simp only [ofFloat?] at isExact
  split at isExact
  · cases isExact
  split at isExact <;> cases isExact
  · exact ⟨by simp only; omega, le_rfl, by simp only; omega, .inr rfl⟩
  · exact ⟨by simp only; omega, by simp only; omega, by simp only; omega,
      .inl (by simp only; omega)⟩

/-- What a finite double is unpacked into. -/
theorem canonical_of_unpack {value : Float} {sign : Sign} {significand : Nat} {exponent : Int}
    {pos : 0 < significand}
    (unpacked : value.toModel.unpack = .finite sign significand exponent pos) :
    Canonical significand exponent := by
  have parts := ofFloat?_eq_ofUnpacked? value
  rw [unpacked] at parts
  exact canonical_of_ofFloat? parts

/-! ## Making a double of parts -/

/-- The significand has 53 bits and the exponent lies within the range of doubles. -/
structure Normal (significand : Nat) (exponent : Int) : Prop where
  low : 2 ^ 52 ≤ significand
  high : significand < 2 ^ 53
  least : -1074 ≤ exponent
  greatest : exponent ≤ 971

variable {significand : Nat} {exponent : Int}

theorem Normal.pos (normal : Normal significand exponent) : 0 < significand :=
  Nat.lt_of_lt_of_le (by decide) normal.low

theorem Normal.log2_eq (normal : Normal significand exponent) : significand.log2 = 52 :=
  (Nat.log2_eq_iff (Nat.ne_of_gt normal.pos)).2 ⟨normal.low, normal.high⟩

/-- The bits of a normal double: its sign, its exponent with the least one counted as 1, and its
significand without the first bit. -/
theorem pack_eq (normal : Normal significand exponent) (sign : Sign) :
    UnpackedFloat.pack .binary64 (.finite sign significand exponent normal.pos) =
      UnpackedFloat.packComponents .binary64 sign (BitVec.ofNat 11 (exponent + 1075).toNat)
        (BitVec.ofNat 52 significand) := by
  have bias : (exponent + (Format.binary64.exponentBias : Int) +
      (Format.binary64.mantissaBitsWithoutImplicit : Int)).toNat = (exponent + 1075).toNat := by
    change (exponent + 1023 + 52).toNat = _
    omega
  have finite : ¬2 ^ Format.binary64.exponentBits ≤ (exponent + 1075).toNat + 1 := by
    have := normal.greatest
    change ¬2048 ≤ _
    omega
  simp only [UnpackedFloat.pack, bias, normal.log2_eq, if_neg finite]
  rfl

/-- The bits of a double below the normal ones. -/
theorem pack_least (pos : 0 < significand) (short : significand < 2 ^ 52) (sign : Sign) :
    UnpackedFloat.pack .binary64 (.finite sign significand (-1074) pos) =
      UnpackedFloat.packComponents .binary64 sign 0#11 (BitVec.ofNat 52 significand) := by
  have length : significand.log2 + 1 ≠ 53 := by
    have := (Nat.log2_lt (Nat.ne_of_gt pos)).2 short
    omega
  exact if_neg length

/-- A normal double is unpacked into the parts it is made of. -/
theorem unpack_pack (normal : Normal significand exponent) (sign : Sign) :
    (Float.Model.pack (.finite sign significand exponent normal.pos)).unpack =
      .finite sign significand exponent normal.pos := by
  change UnpackedFloat.unpack .binary64 (UnpackedFloat.pack .binary64 _) = _
  have shifted : (BitVec.ofNat 11 (exponent + 1075).toNat).toNat = (exponent + 1075).toNat := by
    have := normal.greatest
    rw [BitVec.toNat_ofNat]
    omega
  have notGreatest : BitVec.ofNat 11 (exponent + 1075).toNat ≠ 2047#11 := by
    have := normal.greatest
    intro same
    have := congrArg BitVec.toNat same
    rw [shifted, BitVec.toNat_ofNat] at this
    omega
  have notLeast : BitVec.ofNat 11 (exponent + 1075).toNat ≠ 0#11 := by
    have := normal.least
    intro same
    have := congrArg BitVec.toNat same
    rw [shifted, BitVec.toNat_ofNat] at this
    omega
  have whole : (1#1 ++ BitVec.ofNat 52 significand).toNat = significand := by
    have low := normal.low
    have high := normal.high
    rw [toNat_whole, BitVec.toNat_ofNat]
    omega
  have power : max (exponent + 1075) 0 - (Format.binary64.exponentBias + 52) = exponent := by
    have := normal.least
    change max (exponent + 1075) 0 - (1023 + 52) = exponent
    omega
  rw [pack_eq normal]
  simp [UnpackedFloat.unpack, UnpackedFloat.unpackMantissa_packComponents,
    UnpackedFloat.unpackExponent_packComponents, notGreatest, notLeast, shifted, whole, power]

/-- A double is unpacked into the parts it is made of. -/
theorem unpack_pack_of_canonical (canonical : Canonical significand exponent)
    (pos : 0 < significand) (sign : Sign) :
    (Float.Model.pack (.finite sign significand exponent pos)).unpack =
      .finite sign significand exponent pos := by
  obtain ⟨high, least, greatest, full⟩ := canonical
  rcases Nat.lt_or_ge significand (2 ^ 52) with short | low
  · obtain rfl : exponent = -1074 := full.resolve_left (Nat.not_le_of_lt short)
    change UnpackedFloat.unpack .binary64 (UnpackedFloat.pack .binary64 _) = _
    have kept : (BitVec.ofNat 52 significand).toNat = significand := by
      rw [BitVec.toNat_ofNat, Nat.mod_eq_of_lt short]
    have given : BitVec.ofNat 52 significand ≠ 0#52 := by
      intro same
      have := congrArg BitVec.toNat same
      rw [kept, BitVec.toNat_ofNat] at this
      omega
    rw [pack_least pos short]
    simp [UnpackedFloat.unpack, UnpackedFloat.unpackMantissa_packComponents,
      UnpackedFloat.unpackExponent_packComponents, given, kept]
    rfl
  · exact unpack_pack ⟨low, high, least, greatest⟩ sign

/-- A double that is made of parts has these parts. -/
theorem ofFloat?_pack (normal : Normal significand exponent) (sign : Sign) :
    ofFloat? ⟨Float.Model.pack (.finite sign significand exponent normal.pos)⟩ =
      some ⟨sign == .negative, significand, exponent⟩ := by
  rw [ofFloat?_eq_ofUnpacked?, unpack_pack normal]
  rfl

/-- The opposite of a normal double has the opposite sign. -/
theorem pack_neg (normal : Normal significand exponent) (sign : Sign) :
    -(⟨Float.Model.pack (.finite sign significand exponent normal.pos)⟩ : Float) =
      ⟨Float.Model.pack (.finite (-sign) significand exponent normal.pos)⟩ := by
  change (⟨Float.Model.pack (Float.Model.unpack _).neg⟩ : Float) = _
  rw [unpack_pack normal]
  rfl

end Intake.BinaryValue
