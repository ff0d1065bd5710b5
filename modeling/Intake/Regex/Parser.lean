import Intake.Regex.Scanner
import Intake.Regex.Size

/-!
# Reading a pattern

A pattern is read from left to right with a stack of open groups. Sets in brackets are read by a
recursion of their own. Nothing that is malformed is repaired: the pattern is refused as a whole.
-/

namespace Intake

namespace Regex

namespace Parser

/-!
## Sets in brackets
-/

/-- How two sets are combined. -/
inductive SetOp where
  | inter | diff | symmDiff
  deriving DecidableEq

/-- The combination of two sets. -/
def SetOp.apply : SetOp → CharSet → CharSet → CharSet
  | inter => CharSet.inter
  | diff => CharSet.diff
  | symmDiff => CharSet.symmDiff

/-- A set while it is read: what stands before the last operator, and the members after it. Also the
depth of what it is made of. -/
structure SetDraft where
  before : Option (SetOp × CharSet) := none
  members : CharSet := .empty
  count : Nat := 0
  depth : Nat := 0

/-- The draft with more members. -/
def SetDraft.add (draft : SetDraft) (members : CharSet) (depth : Nat) : SetDraft :=
  { draft with
    members := draft.members.union members
    count := draft.count + 1
    depth := max draft.depth depth }

/-- The set of a draft, with its last operator applied. Where case is ignored, operands are closed
under case first. -/
def SetDraft.close (draft : SetDraft) : Parser (CharSet × Nat) := do
  let depth := draft.depth + if 1 < draft.count then 1 else 0
  match draft.before with
  | none => pure (draft.members, depth)
  | some (op, left) => return (op.apply (← fold left) (← fold draft.members), depth + 1)

/-- A character of a set. Without Unicode only ASCII may be named. -/
def setMember (c : Char) : Parser CharSet := do
  if !(← get).flags.wide ∧ 0x7F < c.toNat then failure
  else pure (.range c.toNat c.toNat)

/-- A plain character or an escape inside a set. -/
def setAtom : Parser Atom := do
  let c ← current
  if c = '\\' then escape
  else
    bump
    pure (.char c false)

/-- The character after the next one, with what means nothing between them passed over. -/
def peekSecond : Parser (Option Char) := do
  let source ← get
  let rest := source.rest.drop 1
  pure (if source.flags.verbose then dropSpace false rest else rest).head?

/-- A member of a set: a class, a character, or a range between two characters. -/
def setItem : Parser CharSet := do
  let first ← setAtom
  skipSpace
  let c ← current
  let second ← peekSecond
  if c = '-' ∧ second ≠ some ']' ∧ second ≠ some '-' then
    let _ ← bumpTo
    match first, ← setAtom with
    | .char low _, .char high _ =>
      if low.toNat ≤ high.toNat then
        let _ ← setMember high
        pure (.range low.toNat high.toNat)
      else failure
    | _, _ => failure
  else
    match first with
    | .char c _ => setMember c
    | .set members => pure members
    | .look _ => failure

/-- A named class such as `[:alpha:]`, if one stands here. -/
def namedClass? : Parser (Option CharSet) := do
  let source ← get
  match source.rest with
  | '[' :: ':' :: rest =>
    let (negated, rest) :=
      match rest with
      | '^' :: rest => (true, rest)
      | rest => (false, rest)
    let name := rest.takeWhile (· != ':')
    match asciiClass? (String.ofList name), rest.drop name.length with
    | some members, ':' :: ']' :: rest =>
      modify fun source => { source with rest := rest }
      return some (← negate negated members)
    | _, _ => pure none
  | _ => pure none

/-- Dashes at the start of a set, which stand for themselves. -/
def leadingDashes : Nat → SetDraft → Parser SetDraft
  | 0, draft => pure draft
  | fuel + 1, draft => do
    if (← current) = '-' then
      let _ ← bumpTo
      leadingDashes fuel (draft.add (.range 0x2D 0x2D) 0)
    else pure draft

mutual

/-- A set in brackets, from its opening bracket on, with its depth. -/
def bracketed : Nat → Parser (CharSet × Nat)
  | 0 => failure
  | fuel + 1 => do
    let c ← bumpTo
    if c = '^' then let _ ← bumpTo
    let draft ← leadingDashes (← remaining) {}
    let draft ←
      if draft.count = 0 ∧ (← current) = ']' then do
        let _ ← bumpTo
        pure (draft.add (.range 0x5D 0x5D) 0)
      else pure draft
    let (members, depth) ← setItems fuel draft
    return (← negate (c == '^') (← fold members), depth + 1)

/-- The rest of a set, up to its closing bracket. -/
def setItems : Nat → SetDraft → Parser (CharSet × Nat)
  | 0, _ => failure
  | fuel + 1, draft => do
    skipSpace
    let c ← current
    if c = '[' then
      match ← namedClass? with
      | some members => setItems fuel (draft.add members 0)
      | none =>
        let (members, depth) ← bracketed fuel
        setItems fuel (draft.add members depth)
    else if c = ']' then
      bump
      draft.close
    else if ← bumpIf "&&" then nextOperand fuel draft .inter
    else if ← bumpIf "--" then nextOperand fuel draft .diff
    else if ← bumpIf "~~" then nextOperand fuel draft .symmDiff
    else setItems fuel (draft.add (← setItem) 0)

/-- The rest of a set after an operator. -/
def nextOperand : Nat → SetDraft → SetOp → Parser (CharSet × Nat)
  | 0, _, _ => failure
  | fuel + 1, draft, op => do
    let (left, depth) ← draft.close
    setItems fuel { before := some (op, left), depth := depth }

end

/-!
## Sequences and groups
-/

/-- What stands in a sequence: a change of flags, or an expression with its depth. -/
inductive Piece where
  | flags
  | expr (regex : Regex) (depth : Nat)

/-- The expression and the depth of pieces, the last of which comes first. -/
def joinPieces (pieces : List Piece) : Regex × Nat :=
  match pieces with
  | [] => (.empty, 0)
  | [.flags] => (.empty, 0)
  | [.expr regex depth] => (regex, depth)
  | pieces =>
    let (regex, depth) := pieces.foldl
      (fun (regex, depth) piece =>
        match piece with
        | .flags => (regex, depth)
        | .expr first inner => (if regex matches .empty then first else .seq first regex,
            max depth inner))
      (.empty, 0)
    (regex, depth + 1)

/-- An open group: the alternatives before the current one and the pieces of the current one, the
last first in both, and the flags to return to. -/
structure Frame where
  alternatives : List (Regex × Nat) := []
  pieces : List Piece := []
  flagsAfter : Flags := {}
  counted : Bool := false

/-- The expression and the depth of an open group. -/
def Frame.close (frame : Frame) : Regex × Nat :=
  let last := joinPieces frame.pieces
  match frame.alternatives with
  | [] => last
  | earlier =>
    let (regex, depth) := earlier.foldl
      (fun (regex, depth) (left, inner) => (.alt left regex, max depth inner)) last
    (regex, depth + 1)

/-- Flags as they are changed by letters, the state being whether a minus sign was seen. -/
def flagLetters : Nat → Bool → List Char → Flags → Parser (Flags × List Char)
  | 0, _, _, _ => failure
  | fuel + 1, off, seen, flags => do
    let c ← current
    if c = ':' ∨ c = ')' then
      if seen.head? = some '-' then failure else pure (flags, seen)
    else if seen.contains c then failure
    else
      bump
      if c = '-' then flagLetters fuel true (c :: seen) flags
      else
        let on := !off
        match c with
        | 'i' => flagLetters fuel off (c :: seen) { flags with ignoreCase := on }
        | 'm' => flagLetters fuel off (c :: seen) { flags with multiLine := on }
        | 's' => flagLetters fuel off (c :: seen) { flags with dotAll := on }
        | 'U' => flagLetters fuel off (c :: seen) flags
        | 'u' => flagLetters fuel off (c :: seen) { flags with wide := on }
        | 'R' => flagLetters fuel off (c :: seen) { flags with crlf := on }
        | 'x' => flagLetters fuel off (c :: seen) { flags with verbose := on }
        | _ => failure

/-- The name of a group, up to its closing bracket. Names must differ. -/
def groupName : Parser Unit := do
  let source ← get
  let name := source.rest.takeWhile (· != '>')
  match name with
  | [] => failure
  | first :: others =>
    let starts := first == '_' || Unicode.isAlphabetic first
    let continues := others.all fun c =>
      c == '_' || c == '.' || c == '[' || c == ']' || Unicode.isAlphanumeric c
    let text := String.ofList name
    if starts && continues && !source.names.contains text &&
        (source.rest.drop name.length).head? == some '>' then
      modify fun source =>
        { source with
          rest := source.rest.drop (name.length + 1)
          names := text :: source.names }
    else failure

/-- What an opening parenthesis begins: a group, or a change of flags for the rest of this one. -/
def openGroup (stack : List Frame) (frame : Frame) : Parser (List Frame × Frame) := do
  bump
  skipSpace
  let before := (← get).flags
  let rest := (← get).rest
  let group := fun counted => pure (frame :: stack, ({ flagsAfter := before, counted } : Frame))
  if ["?=", "?!", "?<=", "?<!"].any fun look => look.toList.isPrefixOf rest then failure
  else if (← bumpIf "?P<") || (← bumpIf "?<") then
    groupName
    group true
  else if ← bumpIf "?" then
    let (flags, seen) ← flagLetters (← remaining) false [] before
    let last ← current
    bump
    modify fun source => { source with flags := flags }
    if last = ':' then group false
    else if seen = [] then failure
    else pure (stack, { frame with pieces := .flags :: frame.pieces })
  else group true

/-- Close the innermost group. -/
def closeGroup (stack : List Frame) (frame : Frame) : Parser (List Frame × Frame) := do
  bump
  match stack with
  | [] => failure
  | outer :: stack =>
    modify fun source => { source with flags := frame.flagsAfter }
    let (regex, depth) := frame.close
    let regex := if frame.counted then .group regex else regex
    pure (stack, { outer with pieces := .expr regex (depth + 1) :: outer.pieces })

/-- Pass over the question mark that makes a repetition prefer fewer rounds, which makes no
difference to whether it matches. -/
def skipLazy : Parser Unit := do
  if (← peek) = some '?' then bump

/-- Repeat the last piece. -/
def repeatLast (frame : Frame) (least : Nat) (most : Option Nat) : Parser Frame := do
  match frame.pieces with
  | .expr regex depth :: pieces =>
    pure { frame with pieces := .expr (repetition regex least most) (depth + 1) :: pieces }
  | _ => failure

/-- The bounds in braces, from the opening brace on. -/
def bounds : Parser (Nat × Option Nat) := do
  let _ ← bumpTo
  let least ← number
  let c ← current
  let (least, most) ←
    if c = ',' then do
      let c ← bumpTo
      let some least := least | failure
      if c = '\x7d' then pure (least, none)
      else
        let some most ← number | failure
        pure (least, some most)
    else do
      let some least := least | failure
      pure (least, some least)
  if (← current) ≠ '\x7d' then failure
  bumpSpace
  if most.any (· < least) then failure else pure (least, most)

/-- The expression of a single character. -/
def charRegex (c : Char) (byte : Bool) : Parser Regex := do
  let flags := (← get).flags
  if !flags.wide ∧ 0x7F < c.toNat then
    if byte then failure else pure (.set (.range c.toNat c.toNat))
  else return .set (← fold (.range c.toNat c.toNat))

/-- The expression of a character or an escape outside of sets. -/
def primitive : Parser Regex := do
  let flags := (← get).flags
  match ← current with
  | '\\' =>
    match ← escape with
    | .char c byte => charRegex c byte
    | .set members => pure (.set members)
    | .look condition => pure (.look condition)
  | '.' =>
    bump
    if !flags.wide then failure
    else if flags.dotAll then pure (.set .all)
    else if flags.crlf then pure (.set (CharSet.complement ⟨[(10, 10), (13, 13)]⟩))
    else pure (.set (CharSet.complement ⟨[(10, 10)]⟩))
  | '^' =>
    bump
    pure (.look (if flags.multiLine then .lineStart flags.crlf else .textStart))
  | '$' =>
    bump
    pure (.look (if flags.multiLine then .lineEnd flags.crlf else .textEnd))
  | c =>
    bump
    charRegex c false

/-- Read the rest of a pattern. Every round takes at least one character. -/
def pattern : Nat → List Frame → Frame → Parser (Regex × Nat)
  | 0, _, _ => failure
  | fuel + 1, stack, frame => do
    skipSpace
    match ← peek with
    | none => if stack.isEmpty then pure frame.close else failure
    | some '(' =>
      let (stack, frame) ← openGroup stack frame
      pattern fuel stack frame
    | some ')' =>
      let (stack, frame) ← closeGroup stack frame
      pattern fuel stack frame
    | some '|' =>
      bump
      let alternatives := joinPieces frame.pieces :: frame.alternatives
      pattern fuel stack { frame with alternatives := alternatives, pieces := [] }
    | some '[' =>
      let (members, depth) ← bracketed (← remaining)
      pattern fuel stack { frame with pieces := .expr (.set members) depth :: frame.pieces }
    | some '?' =>
      bump
      skipLazy
      pattern fuel stack (← repeatLast frame 0 (some 1))
    | some '*' =>
      bump
      skipLazy
      pattern fuel stack (← repeatLast frame 0 none)
    | some '+' =>
      bump
      skipLazy
      pattern fuel stack (← repeatLast frame 1 none)
    | some '\x7b' =>
      let (least, most) ← bounds
      skipLazy
      pattern fuel stack (← repeatLast frame least most)
    | some _ =>
      let regex ← primitive
      pattern fuel stack { frame with pieces := .expr regex 0 :: frame.pieces }

end Parser

/-- How deep the parts of a pattern may nest. -/
def depthLimit : Nat := 250

/-- The expression that a pattern writes, if it is well formed and not too large. -/
def ofPattern? (pattern : String) : Option Regex :=
  let text := pattern.toList
  match Parser.pattern (text.length + 1) [] {} { rest := text } with
  | some ((regex, depth), _) => if depth ≤ depthLimit ∧ regex.fits then some regex else none
  | none => none

end Regex

end Intake
