import Intake.Number.Shortest

/-!
# Numbers of records

A number is kept as an integer of 64 bits where it was written as one, and as a double otherwise.
-/

namespace Intake

/-- The least and the greatest integer that is kept exactly. -/
def leastInteger : Int := -0x8000000000000000
@[inherit_doc leastInteger]
def greatestInteger : Int := 0xFFFFFFFFFFFFFFFF

/-- A number as it was written: an integer, or a finite double. -/
inductive Number where
  | integer (value : Int) (inRange : leastInteger ≤ value ∧ value ≤ greatestInteger)
  | float (value : Float) (finite : value.isFinite = true)

namespace Number

/-- The number of an integer, if it is kept exactly. -/
def ofInt? (value : Int) : Option Number :=
  if h : leastInteger ≤ value ∧ value ≤ greatestInteger then some (integer value h) else none

/-- The number of a double, if it is finite. -/
def ofDouble? (value : Float) : Option Number :=
  if h : value.isFinite = true then some (float value h) else none

/-- Zero. -/
def zero : Number := integer 0 (by decide)

instance : Inhabited Number := ⟨zero⟩

/-- The double nearest to an integer of at most 64 bits. -/
def floatOfInt (value : Int) : Float :=
  if value < 0 then -(value.natAbs.toUInt64.toFloat) else value.natAbs.toUInt64.toFloat

/-- The number as a double, rounded to the nearest. -/
def toFloat : Number → Float
  | integer value _ => floatOfInt value
  | float value _ => value

/-- The number as a signed integer of 64 bits: an integer that fits, or a double that is integral
and lies strictly between the bounds. Nothing is rounded or clamped. -/
def toInt? : Number → Option Int
  | integer value _ => if value < 0x8000000000000000 then some value else none
  | float value _ => do
    let exact ← BinaryValue.ofFloat? value
    let integer ← exact.integer?
    if -0x8000000000000000 < integer ∧ integer < 0x8000000000000000 then some integer else none

/-- The written form of a number. -/
def written : Number → String
  | integer value _ => signedDecimal value
  | float value _ => writtenFloat value

end Number

end Intake
