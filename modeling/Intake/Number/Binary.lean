/-!
# The exact value of a floating-point number

A finite double is a sign, a natural number and a power of two. On these parts integrality, rounding
down and rounding to the nearest integer are exact integer arithmetic.
-/

namespace Intake

/-- The number `±significand · 2 ^ exponent`. -/
structure BinaryValue where
  negative : Bool
  significand : Nat
  exponent : Int
  deriving DecidableEq, Repr

namespace BinaryValue

/-- The value of a finite double; infinities and NaN have none. -/
def ofFloat? (value : Float) : Option BinaryValue :=
  let bits := value.toBits.toNat
  let negative : Bool := bits / 0x8000000000000000 = 1
  let field : Nat := bits / 0x10000000000000 % 0x800
  let fraction : Nat := bits % 0x10000000000000
  if field = 2047 then none
  else if field = 0 then some ⟨negative, fraction, -1074⟩
  else some ⟨negative, fraction + 0x10000000000000, (field : Int) - 1075⟩

/-- The value with its sign, scaled by a power of two so that it is an integer, and the power it was
scaled by. -/
def scaled (value : BinaryValue) : Int × Nat :=
  let size := value.significand * Nat.pow 2 value.exponent.toNat
  (if value.negative then -(size : Int) else size, Nat.pow 2 (-value.exponent).toNat)

/-- The integer that the value is equal to. -/
def integer? (value : BinaryValue) : Option Int :=
  let (numerator, denominator) := value.scaled
  if numerator % denominator = 0 then some (numerator / denominator) else none

/-- The greatest integer that is not above the value. -/
def floor (value : BinaryValue) : Int :=
  let (numerator, denominator) := value.scaled
  numerator / denominator

/-- The nearest integer, the one away from zero where two are equally near. -/
def round (value : BinaryValue) : Int :=
  let (numerator, denominator) := value.scaled
  if numerator < 0 then -((2 * -numerator + denominator) / (2 * denominator))
  else (2 * numerator + denominator) / (2 * denominator)

end BinaryValue

end Intake
