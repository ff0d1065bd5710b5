import Intake.Regex.Basic

/-!
# The size of an expression as a program

An expression is accepted only if the automata that run it forwards and backwards fit into ten
mebibytes. Sizes are computed from the expression, without building the automata: repetitions count
as often as they repeat, and a set of characters counts by its UTF-8 byte sequences.
-/

namespace Intake

namespace Utf8

/-- The number of bytes of a code point. -/
def width (code : Nat) : Nat :=
  if code < 0x80 then 1 else if code < 0x800 then 2 else if code < 0x10000 then 3 else 4

/-- The bytes of a code point. -/
def codeBytes (code : Nat) : List Nat :=
  match width code with
  | 1 => [code]
  | 2 => [0xC0 + code / 64, 0x80 + code % 64]
  | 3 => [0xE0 + code / 4096, 0x80 + code / 64 % 64, 0x80 + code % 64]
  | _ => [0xF0 + code / 262144, 0x80 + code / 4096 % 64, 0x80 + code / 64 % 64, 0x80 + code % 64]

/-- The code point at which a range has to be cut so that the first part is one sequence of byte
ranges, if it has to be cut at all. -/
def cut? (low high : Nat) : Option Nat :=
  let atWidth := [0x7F, 0x7FF, 0xD7FF, 0xDFFF, 0xFFFF].find? fun last => low ≤ last && last < high
  match atWidth with
  | some last => some last
  | none =>
    if high < 0x80 then none
    else
      ([1, 2, 3].findSome? fun index =>
        let mask := Nat.pow 64 index - 1
        if low / (mask + 1) = high / (mask + 1) then none
        else if low % (mask + 1) ≠ 0 then some (low / (mask + 1) * (mask + 1) + mask)
        else if high % (mask + 1) ≠ mask then some (high / (mask + 1) * (mask + 1) - 1)
        else none)

/-- The sequences of byte ranges that encode a range of code points. -/
def sequences : Nat → Nat → Nat → List (List (Nat × Nat))
  | 0, _, _ => []
  | fuel + 1, low, high =>
    match cut? low high with
    | some last => sequences fuel low last ++ sequences fuel (last + 1) high
    | none =>
      if 0xD800 ≤ low ∧ high ≤ 0xDFFF then []
      else [(codeBytes low).zip (codeBytes high)]

/-- The sequences of byte ranges that encode a set. -/
def setSequences (set : CharSet) : List (List (Nat × Nat)) :=
  set.ranges.flatMap fun range => sequences 16 range.1 range.2

end Utf8

namespace Regex

/-- The bytes of a state, of a transition of a state for bytes, and of an alternative. -/
def stateSize : Nat := 32
@[inherit_doc stateSize]
def transitionSize : Nat := 8
@[inherit_doc stateSize]
def branchSize : Nat := 4

/-- The states of a shared automaton for byte sequences, each with its transitions. -/
abbrev Nodes := List (List (Nat × Nat × Nat))

/-- The number of a state with given transitions, which is added if there is none yet. -/
def Nodes.intern (nodes : Nodes) (node : List (Nat × Nat × Nat)) : Nat × Nodes :=
  match nodes.idxOf? node with
  | some index => (nodes.length - index, nodes)
  | none => (nodes.length + 1, node :: nodes)

/-- Sequences that begin alike, under their first byte range. -/
def groupHeads : List (List (Nat × Nat)) → List ((Nat × Nat) × List (List (Nat × Nat)))
  | [] => []
  | [] :: rest => groupHeads rest
  | (head :: tail) :: rest =>
    match groupHeads rest with
    | (other, tails) :: groups =>
      if other = head then (head, tail :: tails) :: groups
      else (head, [tail]) :: (other, tails) :: groups
    | [] => [(head, [tail])]

/-- Add the states for sequences of at most `depth` bytes. The end of a sequence is state zero. -/
def addNodes : Nat → List (List (Nat × Nat)) → Nodes → Nat × Nodes
  | 0, _, nodes => (0, nodes)
  | depth + 1, sequences, nodes =>
    match groupHeads sequences with
    | [] => (0, nodes)
    | groups =>
      let (node, nodes) := groups.foldl
        (fun (node, nodes) (head, tails) =>
          let (target, nodes) := addNodes depth tails nodes
          ((head.1, head.2, target) :: node, nodes))
        ([], nodes)
      nodes.intern node

/-- The size of the automaton that reads a set forwards, with common endings shared. -/
def forwardSetSize (set : CharSet) : Nat :=
  let (_, nodes) := addNodes 4 (Utf8.setSequences set) []
  stateSize + nodes.foldl (fun size node => size + stateSize + transitionSize * node.length) 0

/-- Distinct beginnings of sequences, given that equal beginnings stand together. -/
def beginnings : List (List (Nat × Nat)) → Nat
  | [] => 0
  | [first] => first.length
  | first :: second :: rest =>
    let shared := ((first.zip second).takeWhile fun pair => pair.1 == pair.2).length
    first.length - shared + beginnings (second :: rest)

/-- The size of the automaton that reads a set backwards, with common beginnings shared. -/
def backwardSetSize (set : CharSet) : Nat :=
  let sequences := Utf8.setSequences set
  2 * stateSize + stateSize * beginnings sequences + branchSize * sequences.length

/-- The size of a set: a single character is the sequence of its bytes, and ASCII characters need
one state. -/
def setSize (forward : Bool) (set : CharSet) : Nat :=
  match set.ranges with
  | [] => stateSize
  | [(low, high)] =>
    if low = high then stateSize * Utf8.width low
    else if high < 0x80 then 2 * stateSize + transitionSize
    else if forward then forwardSetSize set else backwardSetSize set
  | ranges =>
    if set.isAscii then 2 * stateSize + transitionSize * ranges.length
    else if forward then forwardSetSize set else backwardSetSize set

/-- The size of the automaton for an expression. -/
def size (forward : Bool) : Regex → Nat
  | empty => stateSize
  | set members => setSize forward members
  | look _ => stateSize
  | group inner => size forward inner + if forward then 2 * stateSize else 0
  | seq first second => size forward first + size forward second
  | alt left right => size forward left + size forward right + 2 * branchSize
  | rep inner least most =>
    let once := size forward inner
    let branch := stateSize + 2 * branchSize
    match most with
    | none => max least 1 * once + branch
    | some most => most * once + (most - least) * branch + stateSize

/-- The greatest size of an automaton. -/
def sizeLimit : Nat := 10 * 0x100000

/-- The automata for an expression fit. -/
def fits (regex : Regex) : Bool := regex.size true ≤ sizeLimit && regex.size false ≤ sizeLimit

end Regex

end Intake
