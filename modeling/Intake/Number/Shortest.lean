import Intake.Number.Binary
import Intake.Text.Decimal

/-!
# The shortest decimal that reads back

Among the decimals that round to a given double, the one with the fewest digits is chosen; of
several of that length the nearest, and of two equally near the one with an even last digit.
-/

namespace Intake

/-- The number `digits · 10 ^ exponent`. -/
structure DecimalValue where
  digits : Nat
  exponent : Int
  deriving DecidableEq, Repr

namespace Shortest

/-- The reals that round to a double with significand `m` and exponent `q`, as fractions with the
common denominator `scale`: the value, and the ends of the interval. -/
structure Interval where
  value : Nat
  low : Nat
  high : Nat
  scale : Nat
  /-- The ends belong to the interval. -/
  closed : Bool

/-- The interval around `m · 2 ^ q`. Below a power of two the doubles lie twice as close. -/
def interval (m : Nat) (q : Int) : Interval :=
  let up := Nat.pow 2 q.toNat
  let narrow := m = 0x10000000000000 ∧ -1074 < q
  { value := 4 * m * up
    low := (4 * m - if narrow then 1 else 2) * up
    high := (4 * m + 2) * up
    scale := 4 * Nat.pow 2 (-q).toNat
    closed := m % 2 = 0 }

/-- The fraction `numerator / scale` lies in the interval. -/
def Interval.contains (range : Interval) (numerator scale : Nat) : Bool :=
  let point := numerator * range.scale
  if range.closed then range.low * scale ≤ point && point ≤ range.high * scale
  else range.low * scale < point && point < range.high * scale

/-- The point of the grid of multiples of `10 ^ exponent` that reads back, if one of the two around
the value does. -/
def onGrid? (range : Interval) (exponent : Int) : Option DecimalValue :=
  let up := Nat.pow 10 exponent.toNat
  let down := Nat.pow 10 (-exponent).toNat
  -- the grid point `k` is the fraction `k * up / down`
  let below := range.value * down / (range.scale * up)
  let above := below + 1
  let fits := fun k => range.contains (k * up) down
  let fromBelow := range.value * down - below * up * range.scale
  let fromAbove := above * up * range.scale - range.value * down
  match fits below && below != 0, fits above with
  | true, true =>
    if fromBelow < fromAbove ∨ (fromBelow = fromAbove ∧ below % 2 = 0) then some ⟨below, exponent⟩
    else some ⟨above, exponent⟩
  | true, false => some ⟨below, exponent⟩
  | false, true => some ⟨above, exponent⟩
  | false, false => none

/-- The first grid that holds a decimal that reads back, from coarse to fine. -/
def search (range : Interval) : Nat → Int → Option DecimalValue
  | 0, _ => none
  | steps + 1, exponent =>
    match onGrid? range exponent with
    | some found => some found
    | none => search range steps (exponent - 1)

/-- The number of decimal digits of a natural number. -/
def digitCount (value : Nat) : Nat := (decimal value).length

/-- A decimal without trailing zeros in its digits. -/
def stripZeros : Nat → DecimalValue → DecimalValue
  | 0, value => value
  | fuel + 1, value =>
    if value.digits ≠ 0 ∧ value.digits % 10 = 0 then
      stripZeros fuel ⟨value.digits / 10, value.exponent + 1⟩
    else value

/-- The shortest decimal of a positive value. The search starts at the first grid coarser than the
value and ends at seventeen digits. -/
def ofBinary (value : BinaryValue) : DecimalValue :=
  let whole :=
    value.significand * Nat.pow 2 value.exponent.toNat / Nat.pow 2 (-value.exponent).toNat
  let top : Int :=
    if whole ≠ 0 then digitCount whole
    else -- below one: the decimal exponent is bounded from the binary one
      (value.exponent + Nat.log2 value.significand + 1) * 30103 / 100000 + 1
  let range := interval value.significand value.exponent
  match search range 24 top with
  | some found => stripZeros 400 found
  | none => ⟨0, 0⟩

end Shortest

/-!
## The written form
-/

/-- Where a written number uses an exponent. -/
structure NumberStyle where
  /-- The least and the greatest position of the point, relative to the first digit, that is written
  without an exponent. -/
  leastPoint : Int
  greatestPoint : Int

/-- Numbers in records have an exponent when the point would stand more than four zeros in front of
the digits or more than sixteen places after the first. -/
def recordNumbers : NumberStyle := { leastPoint := -4, greatestPoint := 16 }

/-- The text of `digits` with the point at a position relative to the first digit. A number without
an exponent always has a fraction, one with an exponent only where it has digits for it. -/
def NumberStyle.place (style : NumberStyle) (digits : List Char) (point : Int) : List Char :=
  if style.leastPoint ≤ point ∧ point ≤ style.greatestPoint then
    if point ≤ 0 then '0' :: '.' :: (List.replicate (-point).toNat '0' ++ digits)
    else if digits.length ≤ point.toNat then
      digits ++ List.replicate (point.toNat - digits.length) '0' ++ ['.', '0']
    else digits.take point.toNat ++ '.' :: digits.drop point.toNat
  else
    let power := point - 1
    let mantissa :=
      match digits with
      | first :: second :: rest => first :: '.' :: second :: rest
      | digits => digits
    mantissa ++ 'e' :: (if power < 0 then '-' else '+') :: (decimal power.natAbs).toList

/-- The written form of a finite double. Infinities and NaN are written as null. -/
def writtenFloat (value : Float) : String :=
  match BinaryValue.ofFloat? value with
  | none => "null"
  | some exact =>
    let sign := if exact.negative then "-" else ""
    if exact.significand = 0 then sign ++ "0.0"
    else
      let shortest := Shortest.ofBinary exact
      let digits := (decimal shortest.digits).toList
      sign ++ String.ofList (recordNumbers.place digits (digits.length + shortest.exponent))

end Intake
