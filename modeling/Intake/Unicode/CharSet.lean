/-!
# Sets of characters

A set of characters is a list of ranges of code points, ascending and apart from each other.
-/

namespace Intake

/-- A set of code points as ranges with both ends included. -/
structure CharSet where
  ranges : List (Nat × Nat)
  deriving DecidableEq, Repr

namespace CharSet

/-- The greatest code point. -/
def lastCode : Nat := 0x10FFFF

/-- Ranges with ascending starts, joined where they touch. -/
def join : List (Nat × Nat) → List (Nat × Nat)
  | [] => []
  | range :: rest => go range.1 range.2 rest
where
  go (low high : Nat) : List (Nat × Nat) → List (Nat × Nat)
    | [] => [(low, high)]
    | (low', high') :: rest =>
      if low' ≤ high + 1 then go low (max high high') rest else (low, high) :: go low' high' rest

/-- The set of ranges in any order. -/
def ofRanges (ranges : List (Nat × Nat)) : CharSet :=
  ⟨join (ranges.mergeSort fun left right => left.1 ≤ right.1)⟩

/-- No characters. -/
def empty : CharSet := ⟨[]⟩

/-- All characters. -/
def all : CharSet := ⟨[(0, lastCode)]⟩

/-- The range between two characters. -/
def range (low high : Nat) : CharSet := ⟨[(low, high)]⟩

/-- A code point belongs to the set. -/
def contains (set : CharSet) (code : Nat) : Bool :=
  set.ranges.any fun range => range.1 ≤ code && code ≤ range.2

/-- All characters of two sets. -/
def union (left right : CharSet) : CharSet := ofRanges (left.ranges ++ right.ranges)

/-- The ranges between and around ranges, from a code point on. -/
def gaps (start : Nat) : List (Nat × Nat) → List (Nat × Nat)
  | [] => if start ≤ lastCode then [(start, lastCode)] else []
  | (low, high) :: rest =>
    if start < low then (start, low - 1) :: gaps (high + 1) rest else gaps (high + 1) rest

/-- All characters that a set does not have. -/
def complement (set : CharSet) : CharSet := ⟨gaps 0 set.ranges⟩

/-- The characters that two sets share. -/
def inter (left right : CharSet) : CharSet := (left.complement.union right.complement).complement

/-- The characters of the first set that the second does not have. -/
def diff (left right : CharSet) : CharSet := left.inter right.complement

/-- The characters that exactly one of two sets has. -/
def symmDiff (left right : CharSet) : CharSet := (left.diff right).union (right.diff left)

/-- No character belongs to the set. -/
def isEmpty (set : CharSet) : Bool := set.ranges.isEmpty

/-- All characters belong to ASCII. -/
def isAscii (set : CharSet) : Bool := set.ranges.all fun range => range.2 < 128

/-!
## The written form of tables

Numbers are written in base 32, the last digit with one of 32 signs and the others with one of 32
different signs, so that no separator is needed. They come in pairs: the gap after the range before,
and the length of the range less one.
-/

/-- The value of a digit, and whether it is the last of its number. -/
def digit? (c : Char) : Option (Nat × Bool) :=
  let n := c.toNat
  if 48 ≤ n ∧ n ≤ 57 then some (n - 48, true)
  else if 97 ≤ n ∧ n ≤ 118 then some (n - 97 + 10, true)
  else if 65 ≤ n ∧ n ≤ 90 then some (n - 65, false)
  else
    match c with
    | '+' => some (26, false)
    | '=' => some (27, false)
    | '*' => some (28, false)
    | ':' => some (29, false)
    | '<' => some (30, false)
    | '>' => some (31, false)
    | _ => none

/-- The numbers that a text writes. -/
def numbers (value : Nat) : List Char → List Nat
  | [] => []
  | c :: rest =>
    match digit? c with
    | some (digit, true) => (value * 32 + digit) :: numbers 0 rest
    | some (digit, false) => numbers (value * 32 + digit) rest
    | none => numbers value rest

/-- The ranges that gaps and lengths describe. -/
def fromGaps (position : Nat) : List Nat → List (Nat × Nat)
  | gap :: size :: rest =>
    (position + gap, position + gap + size) :: fromGaps (position + gap + size + 1) rest
  | _ => []

/-- The set that lines of a table write. -/
def ofTable (lines : List String) : CharSet :=
  ⟨fromGaps 0 (numbers 0 (lines.flatMap String.toList))⟩

end CharSet

end Intake
