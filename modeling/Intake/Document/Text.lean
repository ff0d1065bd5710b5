/-!
# The text of a document

The characters still to be read, with the position of the first of them, and the classes of
characters that matter for the layout of a document.
-/

namespace Intake

namespace Document

/-- A document may hold the character. -/
def isAllowed (c : Char) : Bool :=
  let code := c.toNat
  code = 0x09 || code = 0x0A || code = 0x0D || (0x20 ≤ code && code ≤ 0x7E) || code = 0x85 ||
    (0xA0 ≤ code && code ≤ 0xD7FF) || (0xE000 ≤ code && code ≤ 0xFFFD) || 0x10000 ≤ code

/-- Spaces and tabs. -/
def isPadding (c : Char) : Bool := c = ' ' || c = '\t'

/-- Characters that end a line. -/
def isLineEnd (c : Char) : Bool :=
  c = '\n' || c = '\r' || c.toNat = 0x85 || c.toNat = 0x2028 || c.toNat = 0x2029

/-- Characters of names: letters and digits of ASCII, the dash and the underscore. -/
def isNameChar (c : Char) : Bool := c.isAlphanum || c = '-' || c = '_'

/-- The value of a hexadecimal digit. -/
def hexValue? (c : Char) : Option Nat :=
  if '0' ≤ c ∧ c ≤ '9' then some (c.toNat - '0'.toNat)
  else if 'a' ≤ c ∧ c ≤ 'f' then some (c.toNat - 'a'.toNat + 10)
  else if 'A' ≤ c ∧ c ≤ 'F' then some (c.toNat - 'A'.toNat + 10)
  else none

/-- What follows ends a word: padding, a line end, or the end of the document. -/
def endsWord : Option Char → Bool
  | none => true
  | some c => isPadding c || isLineEnd c

/-- What follows ends a line. -/
def endsLine : Option Char → Bool
  | none => true
  | some c => isLineEnd c

/-- The characters still to be read and the position of the first of them: characters before it,
line and column, all counted from zero. -/
structure Cursor where
  rest : List Char
  index : Nat := 0
  line : Nat := 0
  column : Nat := 0

namespace Cursor

/-- The character some places ahead. -/
def ahead (cursor : Cursor) (places : Nat) : Option Char := cursor.rest[places]?

/-- The next character. -/
def peek (cursor : Cursor) : Option Char := cursor.rest.head?

/-- Move past characters of one line. -/
def advance (cursor : Cursor) (count : Nat) : Cursor :=
  { cursor with
    rest := cursor.rest.drop count
    index := cursor.index + count
    column := cursor.column + count }

/-- The characters of one line up to the first that is not accepted, and the cursor behind them. -/
def takeWhile (accepts : Char → Bool) (cursor : Cursor) : List Char × Cursor :=
  let taken := cursor.rest.takeWhile accepts
  (taken, cursor.advance taken.length)

/-- Move past characters of one line up to the first that is not accepted. -/
def skipWhile (accepts : Char → Bool) (cursor : Cursor) : Cursor := (cursor.takeWhile accepts).2

/-- Move behind a line end of some characters. -/
def nextLine (cursor : Cursor) (count : Nat) : Cursor :=
  { rest := cursor.rest.drop count
    index := cursor.index + count
    line := cursor.line + 1
    column := 0 }

/-- The line end at the cursor: the character it is kept as, and the cursor behind it. -/
def lineEnd? (cursor : Cursor) : Option (Char × Cursor) :=
  match cursor.rest with
  | '\r' :: '\n' :: _ => some ('\n', cursor.nextLine 2)
  | c :: _ =>
    if isLineEnd c then some (if c.toNat < 0x2028 then '\n' else c, cursor.nextLine 1) else none
  | [] => none

/-- Move behind a line end, if there is one. -/
def skipLineEnd (cursor : Cursor) : Cursor :=
  match cursor.lineEnd? with
  | some (_, next) => next
  | none => cursor

/-- Move past a comment, if one begins here. -/
def skipComment (cursor : Cursor) : Cursor :=
  if cursor.peek = some '#' then cursor.skipWhile fun c => !isLineEnd c else cursor

/-- Move past padding and a comment to the end of the line, which must be reached. -/
def restOfLine? (cursor : Cursor) : Option Cursor :=
  let cursor := (cursor.skipWhile isPadding).skipComment
  if endsLine cursor.peek then some cursor.skipLineEnd else none

/-- A line begins here with a word of three equal characters. -/
def atMark (cursor : Cursor) (c : Char) : Bool :=
  cursor.column = 0 && cursor.rest.take 3 == [c, c, c] && endsWord (cursor.ahead 3)

/-- A line begins here that starts or ends a document. -/
def atDocumentMark (cursor : Cursor) : Bool := cursor.atMark '-' || cursor.atMark '.'

end Cursor

end Document

end Intake
