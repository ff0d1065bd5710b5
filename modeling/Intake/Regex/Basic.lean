import Intake.Unicode.Lookup

/-!
# Regular expressions

An expression denotes the pairs of positions in a text between which it matches. Given the positions
where it may begin, `ends` computes those where it may end, by recursion on the expression.
-/

namespace Intake

/-- Conditions on a position, which take no characters. -/
inductive Look where
  | textStart | textEnd
  /-- The start or the end of a line; `crlf` counts carriage returns as ends of lines too. -/
  | lineStart (crlf : Bool) | lineEnd (crlf : Bool)
  /-- A change between word characters and others; `wide` takes word characters from Unicode. -/
  | wordEdge (wide : Bool) | noWordEdge (wide : Bool)
  | wordStart (wide : Bool) | wordEnd (wide : Bool)
  | wordStartHalf (wide : Bool) | wordEndHalf (wide : Bool)
  deriving DecidableEq, Repr

/-- A regular expression. -/
inductive Regex where
  /-- The empty text. -/
  | empty
  /-- One character of a set. -/
  | set (set : CharSet)
  /-- A condition. -/
  | look (look : Look)
  /-- A group that is counted. -/
  | group (inner : Regex)
  /-- One expression after the other. -/
  | seq (first second : Regex)
  /-- One of two expressions. -/
  | alt (left right : Regex)
  /-- An expression repeated at least `least` times, and at most `most` times where there is a
  limit. -/
  | rep (inner : Regex) (least : Nat) (most : Option Nat)
  deriving Repr

namespace Regex

/-- The ASCII word characters. -/
def asciiWordChars : CharSet := ⟨[(0x30, 0x39), (0x41, 0x5A), (0x5F, 0x5F), (0x61, 0x7A)]⟩

/-- The Unicode word characters. -/
def wideWordChars : CharSet := Unicode.wordChars

/-- A neighbour of a position is a word character. -/
def isWord (wide : Bool) (neighbour : Option Char) : Bool :=
  match neighbour with
  | some c => if wide then wideWordChars.contains c.toNat else asciiWordChars.contains c.toNat
  | none => false

end Regex

/-- The condition holds between two neighbours, of which one is missing at an end of the text. -/
def Look.holds (look : Look) (before after : Option Char) : Bool :=
  match look with
  | textStart => before.isNone
  | textEnd => after.isNone
  | lineStart false => before.isNone || before == some '\n'
  | lineStart true =>
    before.isNone || before == some '\n' || (before == some '\r' && after != some '\n')
  | lineEnd false => after.isNone || after == some '\n'
  | lineEnd true =>
    after.isNone || after == some '\r' || (after == some '\n' && before != some '\r')
  | wordEdge wide => Regex.isWord wide before != Regex.isWord wide after
  | noWordEdge wide => Regex.isWord wide before == Regex.isWord wide after
  | wordStart wide => !Regex.isWord wide before && Regex.isWord wide after
  | wordEnd wide => Regex.isWord wide before && !Regex.isWord wide after
  | wordStartHalf wide => !Regex.isWord wide before
  | wordEndHalf wide => !Regex.isWord wide after

namespace Regex

/-- Positions without repetition, in ascending order. -/
def merge (left right : List Nat) : List Nat :=
  ((left ++ right).mergeSort fun a b => a ≤ b).eraseReps

/-- A step applied a number of times, or until it changes nothing any more. -/
def iterate (step : List Nat → List Nat) : Nat → List Nat → List Nat
  | 0, positions => positions
  | count + 1, positions =>
    let next := step positions
    if next = positions then positions else iterate step count next

/-- The positions of a text where the expression may end, if it may begin at the given ones. -/
def ends (text : Array Char) : Regex → List Nat → List Nat
  | empty, starts => starts
  | set members, starts =>
    starts.filterMap fun position =>
      match text[position]? with
      | some c => if members.contains c.toNat then some (position + 1) else none
      | none => none
  | look condition, starts =>
    starts.filter fun position =>
      condition.holds (if position = 0 then none else text[position - 1]?) text[position]?
  | group inner, starts => ends text inner starts
  | seq first second, starts => ends text second (ends text first starts)
  | alt left right, starts => merge (ends text left starts) (ends text right starts)
  | rep inner least most, starts =>
    let step := fun positions => ends text inner positions
    let grow := fun positions => merge positions (step positions)
    let required := iterate step least starts
    match most with
    | some most => iterate grow (most - least) required
    | none => iterate grow (text.size + 1) required

/-- The expression matches somewhere in a text. -/
def matchesIn (regex : Regex) (text : String) : Bool :=
  let chars := text.toList.toArray
  !(regex.ends chars (List.range (chars.size + 1))).isEmpty

/-- The greatest number of bytes of a match is zero. -/
def matchesEmptyOnly : Regex → Bool
  | empty => true
  | set _ => false
  | look _ => true
  | group inner => inner.matchesEmptyOnly
  | seq first second => first.matchesEmptyOnly && second.matchesEmptyOnly
  | alt left right => left.matchesEmptyOnly && right.matchesEmptyOnly
  | rep inner _ most => inner.matchesEmptyOnly || most == some 0

/-- A repetition. What takes no characters is repeated at most once. -/
def repetition (inner : Regex) (least : Nat) (most : Option Nat) : Regex :=
  let (least, most) :=
    if inner.matchesEmptyOnly then (min least 1, some ((most.getD 1).min 1)) else (least, most)
  if most = some 0 then empty
  else if least = 1 ∧ most = some 1 then inner
  else rep inner least most

end Regex

end Intake
