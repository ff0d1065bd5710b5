/-!
# Decimal numerals

Writing numbers in decimal, at a fixed width or as short as possible, and the value of a run of
ASCII digits. Main statement: a numeral of fixed width reads back as the number it was written for.
-/

namespace Intake

/-- The ASCII decimal digits. -/
def isDigit (c : Char) : Bool := '0' ≤ c && c ≤ '9'

/-- The value of a decimal digit. -/
def digitValue (c : Char) : Nat := c.toNat - '0'.toNat

/-- The decimal digit with a value below ten. -/
def digitOf (value : Nat) : Char := Char.ofNat ('0'.toNat + value % 10)

/-- The value of a list of digits, most significant first, after the digits read so far. -/
def digitsValue (text : List Char) (high : Nat) : Nat :=
  text.foldl (fun value c => value * 10 + digitValue c) high

/-- The lowest `width` decimal digits of a number, with leading zeros. -/
def fixedDigits : Nat → Nat → List Char
  | 0, _ => []
  | width + 1, value => fixedDigits width (value / 10) ++ [digitOf value]

/-- The decimal numeral of a natural number without leading zeros. -/
def decimal (value : Nat) : String := toString value

/-- The decimal numeral of an integer, with a minus sign when it is negative. -/
def signedDecimal (value : Int) : String :=
  if value < 0 then "-" ++ decimal value.natAbs else decimal value.natAbs

theorem fixedDigits_length (width value : Nat) : (fixedDigits width value).length = width := by
  induction width generalizing value with
  | zero => rfl
  | succ width ih => simp [fixedDigits, ih]

theorem digitValue_digitOf (value : Nat) : digitValue (digitOf value) = value % 10 := by
  have small : value % 10 < 10 := Nat.mod_lt _ (by decide)
  unfold digitOf
  generalize value % 10 = d at small
  match d, small with
  | 0, _ | 1, _ | 2, _ | 3, _ | 4, _ | 5, _ | 6, _ | 7, _ | 8, _ | 9, _ => rfl

theorem isDigit_digitOf (value : Nat) : isDigit (digitOf value) = true := by
  have small : value % 10 < 10 := Nat.mod_lt _ (by decide)
  unfold digitOf
  generalize value % 10 = d at small
  match d, small with
  | 0, _ | 1, _ | 2, _ | 3, _ | 4, _ | 5, _ | 6, _ | 7, _ | 8, _ | 9, _ => rfl

/-- A numeral of fixed width reads back as the number modulo the power of ten it has room for. -/
theorem digitsValue_fixedDigits (width value high : Nat) :
    digitsValue (fixedDigits width value) high =
      high * Nat.pow 10 width + value % Nat.pow 10 width := by
  induction width generalizing value with
  | zero => simp [fixedDigits, digitsValue, Nat.mod_one]
  | succ width ih =>
    have step := ih (value / 10)
    unfold digitsValue at step
    simp only [fixedDigits, digitsValue, List.foldl_append, List.foldl_cons, List.foldl_nil, step,
      digitValue_digitOf]
    have next : Nat.pow 10 (width + 1) = 10 * Nat.pow 10 width := Nat.mul_comm _ _
    rw [next, Nat.mod_mul]
    generalize Nat.pow 10 width = room
    have assoc : high * (10 * room) = high * room * 10 := by rw [Nat.mul_comm 10, Nat.mul_assoc]
    omega

end Intake
