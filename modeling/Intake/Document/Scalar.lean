import Intake.Document.Node
import Intake.Document.Text

/-!
# Written scalars

A scalar is written without quotes, in quotes, or as a block of indented lines. Line breaks inside
a scalar are folded: a single one reads as a space, and of several the first is dropped. Literal
blocks keep them all.
-/

namespace Intake

namespace Document

/-- What stands between two pieces of a scalar: the padding before the first line end, and the line
ends. -/
structure Gap where
  padding : List Char := []
  lineEnds : List Char := []

namespace Gap

/-- The text that a gap stands for. -/
def folded (gap : Gap) : List Char :=
  match gap.lineEnds with
  | [] => gap.padding
  | ['\n'] => [' ']
  | '\n' :: more => more
  | lineEnds => lineEnds

/-- Read a gap. Padding at the start of a line is dropped; a tab among the first `indent` columns of
a line is refused. -/
def read (indent : Nat) : Nat → Bool → Gap → Cursor → Option (Gap × Cursor)
  | 0, _, gap, cursor => some (gap, cursor)
  | steps + 1, broken, gap, cursor =>
    match cursor.peek with
    | none => some (gap, cursor)
    | some c =>
      if isPadding c then
        if ¬broken then
          read indent steps false { gap with padding := gap.padding ++ [c] } (cursor.advance 1)
        else if c = '\t' ∧ cursor.column < indent then none
        else read indent steps true gap (cursor.advance 1)
      else
        match cursor.lineEnd? with
        | some (kept, next) =>
          read indent steps true { gap with lineEnds := gap.lineEnds ++ [kept] } next
        | none => some (gap, cursor)

end Gap

/-!
## Without quotes
-/

/-- Signs that structure collections in brackets. -/
def isBracketSign (c : Char) : Bool :=
  c = ',' || c = '[' || c = ']' || c = '\x7b' || c = '\x7d'

/-- The piece of an unquoted scalar that a text begins with: it ends before padding, before a colon
that ends a word and, inside brackets, before their signs. A colon directly before such a sign is
refused. -/
def plainPiece (inBrackets : Bool) : List Char → Option (List Char)
  | [] => some []
  | c :: rest =>
    let next := rest.head?
    if endsWord (some c) then some []
    else if inBrackets ∧ c = ':' ∧ next.any (fun c => isBracketSign c || c = '?') then none
    else if c = ':' ∧ endsWord next then some []
    else if inBrackets ∧ isBracketSign c then some []
    else (plainPiece inBrackets rest).map (c :: ·)

/-- An unquoted scalar. -/
structure PlainScalar where
  text : List Char
  /-- The scalar is followed by a line end. -/
  endsLine : Bool

/-- Read an unquoted scalar from a gap on. Outside brackets the lines after the first are indented
by `indent` columns at least. -/
def plainScalar (inBrackets : Bool) (indent : Nat) :
    Nat → List Char → Gap → Cursor → Option (PlainScalar × Cursor)
  | 0, _, _, _ => none
  | steps + 1, text, gap, cursor => do
    let finished := (⟨text, !gap.lineEnds.isEmpty⟩, cursor)
    if cursor.atDocumentMark ∨ cursor.peek = some '#' then return finished
    let piece ← plainPiece inBrackets cursor.rest
    if piece = [] then return finished
    let text := text ++ gap.folded ++ piece
    let (gap, cursor) ←
      Gap.read indent cursor.rest.length false {} (cursor.advance piece.length)
    if ¬inBrackets ∧ cursor.column < indent then
      return (⟨text, !gap.lineEnds.isEmpty⟩, cursor)
    plainScalar inBrackets indent steps text gap cursor

/-!
## In quotes
-/

/-- The number that hexadecimal digits write. -/
def hexNumber? (text : List Char) : Option Nat :=
  text.foldlM (fun value c => (hexValue? c).map fun digit => value * 16 + digit) 0

/-- The character that an escape letter stands for. -/
def escaped? : Char → Option Char
  | '0' => some '\x00'
  | 'a' => some '\x07'
  | 'b' => some '\x08'
  | 't' => some '\t'
  | '\t' => some '\t'
  | 'n' => some '\n'
  | 'v' => some '\x0b'
  | 'f' => some '\x0c'
  | 'r' => some '\r'
  | 'e' => some '\x1b'
  | ' ' => some ' '
  | '"' => some '"'
  | '/' => some '/'
  | '\\' => some '\\'
  | 'N' => some '\u0085'
  | '_' => some '\u00a0'
  | 'L' => some '\u2028'
  | 'P' => some '\u2029'
  | _ => none

/-- The number of digits after an escape letter that gives a character by its code. -/
def escapeDigits? : Char → Option Nat
  | 'x' => some 2
  | 'u' => some 4
  | 'U' => some 8
  | _ => none

/-- The character of an escape after its backslash, and the length of the escape. -/
def escape? : List Char → Option (Char × Nat)
  | [] => none
  | c :: rest =>
    match escapeDigits? c with
    | none => (escaped? c).map (·, 1)
    | some count => do
      let digits := rest.take count
      guard (digits.length = count)
      let code ← hexNumber? digits
      guard code.isValidChar
      some (Char.ofNat code, count + 1)

/-- The two kinds of quotes. -/
inductive Quote where
  | single | double
  deriving DecidableEq

/-- The sign of a quote. -/
def Quote.sign : Quote → Char
  | single => '\''
  | double => '"'

/-- A piece of a quoted scalar, up to padding, a line end or the closing quote. -/
structure QuotedPiece where
  text : List Char := []
  /-- The piece ends with an escaped line end. -/
  continued : Bool := false

/-- Read a piece of a quoted scalar. -/
def quotedPiece (quote : Quote) : Nat → List Char → Cursor → Option (QuotedPiece × Cursor)
  | 0, _, _ => none
  | steps + 1, text, cursor =>
    match cursor.rest with
    | [] => some ({ text := text }, cursor)
    | c :: rest =>
      if endsWord (some c) then some ({ text := text }, cursor)
      else if quote = .single ∧ c = '\'' ∧ rest.head? = some '\'' then
        quotedPiece quote steps (text ++ [c]) (cursor.advance 2)
      else if c = quote.sign then some ({ text := text }, cursor)
      else if quote = .double ∧ c = '\\' then
        match (cursor.advance 1).lineEnd? with
        | some (_, next) => some ({ text := text, continued := true }, next)
        | none => do
          let (value, length) ← escape? rest
          quotedPiece quote steps (text ++ [value]) (cursor.advance (length + 1))
      else quotedPiece quote steps (text ++ [c]) (cursor.advance 1)

/-- Read a quoted scalar behind its opening quote. -/
def quotedScalar (quote : Quote) : Nat → List Char → Cursor → Option (List Char × Cursor)
  | 0, _, _ => none
  | steps + 1, text, cursor => do
    guard (¬cursor.atDocumentMark)
    guard (cursor.rest ≠ [])
    let (piece, cursor) ← quotedPiece quote (cursor.rest.length + 1) [] cursor
    let text := text ++ piece.text
    if cursor.peek = some quote.sign then return (text, cursor.advance 1)
    let (gap, cursor) ← Gap.read 0 cursor.rest.length piece.continued {} cursor
    let between := if piece.continued then gap.lineEnds else gap.folded
    quotedScalar quote steps (text ++ between) cursor

/-!
## Blocks
-/

/-- What becomes of the line ends at the end of a block: the last line keeps none, keeps its own, or
keeps its own and those of the empty lines below. -/
inductive Chomping where
  | strip | clip | keep
  deriving DecidableEq

/-- The sign for a chomping. -/
def chomping? : Char → Option Chomping
  | '-' => some .strip
  | '+' => some .keep
  | _ => none

/-- A digit for an indentation. Zero is refused. -/
def indentation? (c : Char) : Option (Option Nat) :=
  if c = '0' then some none
  else if c.isDigit then some (some (c.toNat - '0'.toNat))
  else none

/-- Read the signs behind the sign of a block: a chomping and an indentation in either order. -/
def blockSigns (cursor : Cursor) : Option (Chomping × Option Nat × Cursor) :=
  match cursor.peek.bind chomping? with
  | some chomping =>
    let cursor := cursor.advance 1
    match cursor.peek.bind indentation? with
    | some digit => digit.map fun indent => (chomping, some indent, cursor.advance 1)
    | none => some (chomping, none, cursor)
  | none =>
    match cursor.peek.bind indentation? with
    | some digit =>
      digit.map fun indent =>
        let cursor := cursor.advance 1
        match cursor.peek.bind chomping? with
        | some chomping => (chomping, some indent, cursor.advance 1)
        | none => (.clip, some indent, cursor)
    | none => some (.clip, none, cursor)

/-- The empty lines of a block at some place. -/
structure EmptyLines where
  lineEnds : List Char := []
  /-- The greatest indentation seen. -/
  widest : Nat := 0

/-- Read empty lines and the indentation of the line after them, as far as it is known. A tab in the
indentation is refused. -/
def emptyLines (indent : Option Nat) : Nat → EmptyLines → Cursor → Option (EmptyLines × Cursor)
  | 0, lines, cursor => some (lines, cursor)
  | steps + 1, lines, cursor =>
    let limit := match indent with
      | some indent => indent - cursor.column
      | none => cursor.rest.length
    let cursor := cursor.advance ((cursor.rest.take limit).takeWhile (· = ' ')).length
    let lines := { lines with widest := max lines.widest cursor.column }
    let inIndent := (indent.map fun indent => decide (cursor.column < indent)).getD true
    if inIndent && cursor.peek == some '\t' then none
    else
      match cursor.lineEnd? with
      | some (kept, next) =>
        emptyLines indent steps { lines with lineEnds := lines.lineEnds ++ [kept] } next
      | none => some (lines, cursor)

/-- A line of a block with its line end, if it has one, and those of the empty lines below. -/
structure BlockLine where
  text : List Char
  lineEnd : List Char
  emptyBelow : List Char

/-- Read the lines of a block that are indented by `indent` columns. -/
def blockLines (indent : Nat) : Nat → Cursor → Option (List BlockLine × Cursor)
  | 0, _ => none
  | steps + 1, cursor =>
    if cursor.column = indent ∧ cursor.rest ≠ [] then do
      let (text, cursor) := cursor.takeWhile fun c => !isLineEnd c
      let (lineEnd, cursor) := match cursor.lineEnd? with
        | some (kept, next) => ([kept], next)
        | none => ([], cursor)
      let (below, cursor) ← emptyLines (some indent) (cursor.rest.length + 1) {} cursor
      let (lines, cursor) ← blockLines indent steps cursor
      some ({ text := text, lineEnd := lineEnd, emptyBelow := below.lineEnds } :: lines, cursor)
    else some ([], cursor)

/-- A line starts with padding. -/
def BlockLine.isPadded (line : BlockLine) : Bool := line.text.head?.any isPadding

/-- The text between two lines of a block. Lines that start with padding are not folded. -/
def BlockLine.between (literal : Bool) (line next : BlockLine) : List Char :=
  if ¬literal ∧ line.lineEnd = ['\n'] ∧ ¬line.isPadded ∧ ¬next.isPadded then
    if line.emptyBelow = [] then [' '] else line.emptyBelow
  else line.lineEnd ++ line.emptyBelow

/-- The text of the lines of a block. -/
def blockText (literal : Bool) (chomping : Chomping) : List BlockLine → List Char
  | [] => []
  | [line] =>
    line.text ++
      match chomping with
      | .strip => []
      | .clip => line.lineEnd
      | .keep => line.lineEnd ++ line.emptyBelow
  | line :: next :: rest =>
    line.text ++ line.between literal next ++ blockText literal chomping (next :: rest)

/-- Read a block scalar behind its sign. `outer` is the indentation of the collection around it, or
-1 where there is none. -/
def blockScalar (literal : Bool) (outer : Int) (cursor : Cursor) : Option (List Char × Cursor) := do
  let (chomping, increment, cursor) ← blockSigns cursor
  let cursor ← cursor.restOfLine?
  let given := increment.map fun increment => (max outer 0).toNat + increment
  let (above, cursor) ← emptyLines given (cursor.rest.length + 1) {} cursor
  let indent := given.getD (max (max above.widest (outer + 1).toNat) 1)
  let (lines, cursor) ← blockLines indent (cursor.rest.length + 1) cursor
  let lead := if lines = [] ∧ chomping ≠ .keep then [] else above.lineEnds
  some (lead ++ blockText literal chomping lines, cursor)

end Document

end Intake
