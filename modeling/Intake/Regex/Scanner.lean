import Intake.Regex.Basic
import Intake.Text.Blank
import Intake.Text.Decimal

/-!
# Scanning a pattern

The state of reading a pattern, and the pieces that stand for themselves: numbers, escapes, named
sets and flags. Every reader fails where the pattern is malformed.
-/

namespace Intake

namespace Regex

/-- The flags in force at a place of a pattern. -/
structure Flags where
  /-- Letters match in either case. -/
  ignoreCase : Bool := false
  /-- `^` and `$` match at lines too. -/
  multiLine : Bool := false
  /-- `.` matches the end of a line too. -/
  dotAll : Bool := false
  /-- Sets and word edges are those of Unicode. -/
  wide : Bool := true
  /-- Carriage returns end lines too. -/
  crlf : Bool := false
  /-- Blanks and comments in the pattern mean nothing. -/
  verbose : Bool := false
  deriving DecidableEq

/-- The state of reading a pattern. -/
structure Source where
  rest : List Char
  flags : Flags := {}
  /-- The names that groups have so far. -/
  names : List String := []

/-- A reader of the front of a pattern. -/
abbrev Parser := StateT Source Option

namespace Parser

/-- The next character. -/
def peek : Parser (Option Char) := do return (← get).rest.head?

/-- The next character, which must be there. -/
def current : Parser Char := do
  match (← get).rest with
  | c :: _ => pure c
  | [] => failure

/-- Pass over a character. -/
def bump : Parser Unit := modify fun source => { source with rest := source.rest.drop 1 }

/-- The pattern without blanks and comments at its front. -/
def dropSpace : Bool → List Char → List Char
  | _, [] => []
  | true, c :: rest => dropSpace (c != '\n') rest
  | false, c :: rest =>
    if isBlank c then dropSpace false rest
    else if c = '#' then dropSpace true rest
    else c :: rest

/-- Pass over blanks and comments where they mean nothing. -/
def skipSpace : Parser Unit := modify fun source =>
  if source.flags.verbose then { source with rest := dropSpace false source.rest } else source

/-- Pass over a character and what means nothing after it. -/
def bumpSpace : Parser Unit := do
  bump
  skipSpace

/-- Pass over a character; another must follow. -/
def bumpTo : Parser Char := do
  bumpSpace
  current

/-- Pass over a text if it stands here. -/
def bumpIf (text : String) : Parser Bool := do
  let source ← get
  if text.toList.isPrefixOf source.rest then
    modify fun source => { source with rest := source.rest.drop text.length }
    pure true
  else pure false

/-- Characters of a class, with what means nothing between them passed over. -/
def run (accepts : Char → Bool) : Nat → Parser (List Char)
  | 0 => pure []
  | fuel + 1 => do
    match ← peek with
    | some c =>
      if accepts c then
        bumpSpace
        return c :: (← run accepts fuel)
      else pure []
    | none => pure []

/-- A bound on the characters left. -/
def remaining : Parser Nat := do return (← get).rest.length

/-- A decimal number of 32 bits among blanks; `none` where there are no digits. -/
def number : Parser (Option Nat) := do
  modify fun source => { source with rest := trimStart source.rest }
  let digits ← run isDigit (← remaining)
  let _ ← run isBlank (← remaining)
  if digits = [] then pure none
  else
    let value := digitsValue digits 0
    if value < 0x100000000 then pure (some value) else failure

/-- The value of a hexadecimal digit. -/
def hexValue? (c : Char) : Option Nat :=
  if isDigit c then some (digitValue c)
  else if 'a' ≤ c ∧ c ≤ 'f' then some (c.toNat - 'a'.toNat + 10)
  else if 'A' ≤ c ∧ c ≤ 'F' then some (c.toNat - 'A'.toNat + 10)
  else none

/-- The character with a code, which must be one. -/
def charOf (code : Nat) : Parser Char :=
  if code < 0xD800 ∨ (0xDFFF < code ∧ code ≤ 0x10FFFF) then pure (Char.ofNat code) else failure

/-- Exactly so many hexadecimal digits. -/
def hexDigits : Nat → Nat → Parser Nat
  | 0, value => pure value
  | count + 1, value => do
    let some digit := hexValue? (← current) | failure
    bumpSpace
    hexDigits count (value * 16 + digit)

/-- A code in braces, after the opening brace. -/
def bracedHex : Parser Nat := do
  skipSpace
  let digits ← run (fun c => (hexValue? c).isSome) (← remaining)
  if (← current) = '\x7d' ∧ digits ≠ [] then
    bumpSpace
    pure (digits.foldl (fun value c => value * 16 + (hexValue? c).getD 0) 0)
  else failure

/-- The character of a hexadecimal escape, from its letter on, and whether it was written with two
digits. -/
def hexEscape : Parser (Char × Bool) := do
  let letter ← current
  if (← bumpTo) = '\x7b' then
    bump
    return (← charOf (← bracedHex), false)
  else
    let count := if letter = 'x' then 2 else if letter = 'u' then 4 else 8
    return (← charOf (← hexDigits count 0), letter == 'x')

/-- The text before the first occurrence of another one, and the text after it. -/
def splitAt? (mark : List Char) : List Char → Option (List Char × List Char)
  | [] => none
  | c :: rest =>
    if mark.isPrefixOf (c :: rest) then some ([], (c :: rest).drop mark.length)
    else (splitAt? mark rest).map fun (before, after) => (c :: before, after)

/-- The set that the text between the braces of a named set stands for, and whether the text turns
it around. -/
def namedSet? (text : List Char) : Option (CharSet × Bool) :=
  let byValue := fun (property, value) =>
    Unicode.setByValue? (String.ofList property) (String.ofList value)
  match splitAt? ['!', '='] text with
  | some parts => (byValue parts).map fun members => (members, true)
  | none =>
    match (splitAt? [':'] text) <|> (splitAt? ['='] text) with
    | some parts => (byValue parts).map fun members => (members, false)
    | none => (Unicode.setByName? (String.ofList text)).map fun members => (members, false)

/-- The set with both cases of its letters, where case is ignored. -/
def fold (members : CharSet) : Parser CharSet := do
  let flags := (← get).flags
  if flags.ignoreCase then
    let closed := Unicode.closeCase members
    pure (if flags.wide then closed else closed.inter (.range 0 0x7F))
  else pure members

/-- The set turned around if it is negated. Without Unicode that would match single bytes of
characters, and is refused. -/
def negate (negated : Bool) (members : CharSet) : Parser CharSet := do
  if !negated then pure members
  else if (← get).flags.wide then pure members.complement
  else failure

/-- A set by name, from the letter `p` or `P` on. -/
def nameEscape : Parser CharSet := do
  let negated := (← current) == 'P'
  if !(← get).flags.wide then failure
  let c ← bumpTo
  let text ←
    if c = '\x7b' then do
      bumpSpace
      let text ← run (· != '\x7d') (← remaining)
      let _ ← current
      bump
      pure text
    else if c = '\\' then failure
    else do
      bumpSpace
      pure [c]
  let some (members, turned) := namedSet? text | failure
  negate (negated != turned) (← fold members)

/-- The set of a single-letter class. -/
def classLetter? (wide : Bool) (letter : Char) : Option CharSet :=
  match letter.toLower with
  | 'd' => some (if wide then Unicode.digits else .range 0x30 0x39)
  | 's' => some (if wide then Unicode.blanks else ⟨[(9, 13), (32, 32)]⟩)
  | 'w' => some (if wide then wideWordChars else asciiWordChars)
  | _ => none

/-- The characters of a named ASCII class. -/
def asciiClass? : String → Option CharSet
  | "alnum" => some ⟨[(0x30, 0x39), (0x41, 0x5A), (0x61, 0x7A)]⟩
  | "alpha" => some ⟨[(0x41, 0x5A), (0x61, 0x7A)]⟩
  | "ascii" => some ⟨[(0, 0x7F)]⟩
  | "blank" => some ⟨[(9, 9), (32, 32)]⟩
  | "cntrl" => some ⟨[(0, 0x1F), (0x7F, 0x7F)]⟩
  | "digit" => some ⟨[(0x30, 0x39)]⟩
  | "graph" => some ⟨[(0x21, 0x7E)]⟩
  | "lower" => some ⟨[(0x61, 0x7A)]⟩
  | "print" => some ⟨[(0x20, 0x7E)]⟩
  | "punct" => some ⟨[(0x21, 0x2F), (0x3A, 0x40), (0x5B, 0x60), (0x7B, 0x7E)]⟩
  | "space" => some ⟨[(9, 13), (32, 32)]⟩
  | "upper" => some ⟨[(0x41, 0x5A)]⟩
  | "word" => some asciiWordChars
  | "xdigit" => some ⟨[(0x30, 0x39), (0x41, 0x46), (0x61, 0x66)]⟩
  | _ => none

/-- What an escape or a plain character stands for. -/
inductive Atom where
  /-- A character; `byte` marks one that was written as two hexadecimal digits. -/
  | char (c : Char) (byte : Bool)
  | set (set : CharSet)
  | look (look : Look)

/-- The edge of a word that is named in braces, if what follows is such a name. -/
def namedEdge? (wide : Bool) : Parser (Option Look) := do
  let isNameChar := fun c => ('a' ≤ c && c ≤ 'z') || ('A' ≤ c && c ≤ 'Z') || c == '-'
  match ← peek with
  | some '\x7b' =>
    let start ← get
    if isNameChar (← bumpTo) then
      let name ← run isNameChar (← remaining)
      if (← current) ≠ '\x7d' then failure
      bump
      match String.ofList name with
      | "start" => pure (some (.wordStart wide))
      | "end" => pure (some (.wordEnd wide))
      | "start-half" => pure (some (.wordStartHalf wide))
      | "end-half" => pure (some (.wordEndHalf wide))
      | _ => failure
    else
      modify fun _ => start
      pure none
  | _ => pure none

/-- ASCII signs that stand for themselves after a backslash: all but letters, digits and angle
brackets. -/
def isEscapable (c : Char) : Bool :=
  c.toNat < 128 && !isDigit c && !('a' ≤ c && c ≤ 'z') && !('A' ≤ c && c ≤ 'Z') && c != '<' &&
    c != '>'

/-- The character of a one-letter escape. -/
def letterEscape? : Char → Option Char
  | 'a' => some '\x07'
  | 'f' => some '\x0c'
  | 't' => some '\t'
  | 'n' => some '\n'
  | 'r' => some '\r'
  | 'v' => some '\x0b'
  | _ => none

/-- An escape, from its backslash on. -/
def escape : Parser Atom := do
  bump
  let c ← current
  let wide := (← get).flags.wide
  if c = 'x' ∨ c = 'u' ∨ c = 'U' then
    let (c, byte) ← hexEscape
    pure (.char c byte)
  else if c = 'p' ∨ c = 'P' then return .set (← nameEscape)
  else
    match classLetter? wide c with
    | some members =>
      bump
      return .set (← negate (c.toLower != c) members)
    | none =>
      bump
      if isEscapable c then pure (.char c false)
      else
        match letterEscape? c, c with
        | some c, _ => pure (.char c false)
        | none, 'A' => pure (.look .textStart)
        | none, 'z' => pure (.look .textEnd)
        | none, 'b' => return .look ((← namedEdge? wide).getD (.wordEdge wide))
        | none, 'B' => pure (.look (.noWordEdge wide))
        | none, '<' => pure (.look (.wordStart wide))
        | none, '>' => pure (.look (.wordEnd wide))
        | none, _ => failure

end Parser

end Regex

end Intake
