import Intake.Json.Cursor

/-!
# Reading JSON numbers

The digits go into a significand of 64 bits. Integers that fit stay integers. Digits that no longer
fit only move the exponent, or are dropped after the point; the double is then the significand times
or divided by a power of ten, so it is not always the nearest one to the text.
-/

namespace Intake

namespace Json

/-- The significand can take one more digit. -/
def hasRoom (significand digit : Nat) : Bool := significand * 10 + digit < 0x10000000000000000

/-- The value of a digit byte. -/
def digitByteValue (byte : UInt8) : Nat := byte.toNat - 48

/-- The nearest double to a power of ten, up to the greatest one below infinity. -/
def powerOfTen (exponent : Nat) : Float := Float.ofScientific 1 false exponent

/-- The significand times a power of ten. Exponents beyond 308 are worked off in steps. -/
def scale (significand : Float) : Nat → Int → Option Float
  | 0, _ => none
  | steps + 1, exponent =>
    if exponent.natAbs ≤ 308 then
      if 0 ≤ exponent then
        let result := significand * powerOfTen exponent.natAbs
        if result.isInf then none else some result
      else some (significand / powerOfTen exponent.natAbs)
    else if significand == 0 then some significand
    else if 0 ≤ exponent then none
    else scale (significand / powerOfTen 308) steps (exponent + 308)

/-- A number that is a double, and must be finite. -/
def double (value : Float) : Reader Number :=
  match Number.ofDouble? value with
  | some value => pure value
  | none => fail .numberOutOfRange

/-- The double of a sign, a significand and an exponent. Four steps make any significand zero. -/
def float (negative : Bool) (significand : Nat) (exponent : Int) : Reader Number := do
  match scale significand.toUInt64.toFloat 6 exponent with
  | some value => double (if negative then -value else value)
  | none => fail .numberOutOfRange

/-- Skip the digits at the front. -/
def skipDigits : Reader Unit := fun cursor => .ok ((), skipBytes isDigitByte cursor cursor.rest)

/-- The digits of an exponent after the first one. `none` stands for an exponent beyond 32 bits; the
digit that does not fit is then the last one taken. -/
def exponentDigits (value : Nat) (cursor : Cursor) : List UInt8 → Option Nat × Cursor
  | byte :: rest =>
    if isDigitByte byte then
      let value := value * 10 + digitByteValue byte
      if value < 0x80000000 then exponentDigits value (cursor.step byte rest) rest
      else (none, cursor.step byte rest)
    else (some value, cursor)
  | [] => (some value, cursor)

/-- An exponent between the bounds of 32 bits. -/
def clampExponent (exponent : Int) : Int := max (-0x80000000) (min 0x7FFFFFFF exponent)

/-- The rest of a number from the exponent mark on. -/
def exponentPart (negative : Bool) (significand : Nat) (start : Int) : Reader Number := do
  take
  let sign ← peek
  if sign = some 43 ∨ sign = some 45 then take
  let down : Bool := sign = some 45
  let first ← next .endInValue
  if !isDigitByte first then fail .invalidNumber
  else
    let cursor ← get
    let (value, cursor) := exponentDigits (digitByteValue first) cursor cursor.rest
    set cursor
    match value with
    | some value =>
      float negative significand (clampExponent (if down then start - value else start + value))
    | none =>
      if significand ≠ 0 ∧ !down then fail .numberOutOfRange
      else
        skipDigits
        double (if negative then -0.0 else 0.0)

/-- The end of a number with a fraction: an exponent or nothing. -/
def afterFraction (negative : Bool) (significand : Nat) (exponent : Int) : Reader Number := do
  let ahead ← peek
  if ahead = some 101 ∨ ahead = some 69 then exponentPart negative significand exponent
  else float negative significand exponent

/-- Digits of a fraction as long as they fit: the significand, the number of digits, and whether all
digits fitted. -/
def fractionDigits (significand count : Nat) (cursor : Cursor) :
    List UInt8 → (Nat × Nat × Bool) × Cursor
  | byte :: rest =>
    if isDigitByte byte then
      if hasRoom significand (digitByteValue byte) then
        fractionDigits (significand * 10 + digitByteValue byte) (count + 1) (cursor.step byte rest)
          rest
      else ((significand, count, false), cursor)
    else ((significand, count, true), cursor)
  | [] => ((significand, count, true), cursor)

/-- The rest of a number from the point on. -/
def fractionPart (negative : Bool) (significand : Nat) (start : Int) : Reader Number := do
  take
  let cursor ← get
  let ((significand, count, whole), cursor) := fractionDigits significand 0 cursor cursor.rest
  set cursor
  if !whole then
    skipDigits
    afterFraction negative significand (start - count)
  else if count = 0 then
    if (← peek).isSome then failAhead .invalidNumber else failAhead .endInValue
  else afterFraction negative significand (start - count)

/-- The end of a number after its integer digits, all of which fitted. -/
def afterInteger (negative : Bool) (significand : Nat) : Reader Number := do
  let ahead ← peek
  if ahead = some 46 then fractionPart negative significand 0
  else if ahead = some 101 ∨ ahead = some 69 then exponentPart negative significand 0
  else if negative ∧ significand = 0 then double (-0.0)
  else
    match Number.ofInt? (if negative then -(significand : Int) else significand) with
    | some value => pure value
    | none => double (-(significand.toUInt64.toFloat))

/-- The end of a number after the digits that fitted: further digits only count. -/
def longInteger (negative : Bool) (significand : Nat) : Reader Number := do
  let before ← get
  let after := skipBytes isDigitByte before before.rest
  set after
  let dropped := before.rest.length - after.rest.length
  let ahead ← peek
  if ahead = some 46 then fractionPart negative significand dropped
  else if ahead = some 101 ∨ ahead = some 69 then exponentPart negative significand dropped
  else float negative significand dropped

/-- Integer digits as long as they fit, and whether all fitted. -/
def integerDigits (significand : Nat) (cursor : Cursor) : List UInt8 → (Nat × Bool) × Cursor
  | byte :: rest =>
    if isDigitByte byte then
      if hasRoom significand (digitByteValue byte) then
        integerDigits (significand * 10 + digitByteValue byte) (cursor.step byte rest) rest
      else ((significand, false), cursor)
    else ((significand, true), cursor)
  | [] => ((significand, true), cursor)

/-- A number after its sign. -/
def numberReader (negative : Bool) : Reader Number := do
  let first ← next .endInValue
  if first = 48 then
    match ← peek with
    | some byte =>
      if isDigitByte byte then failAhead .invalidNumber else afterInteger negative 0
    | none => afterInteger negative 0
  else if isDigitByte first then
    let cursor ← get
    let ((significand, whole), cursor) := integerDigits (digitByteValue first) cursor cursor.rest
    set cursor
    if whole then afterInteger negative significand else longInteger negative significand
  else fail .invalidNumber

end Json

end Intake
