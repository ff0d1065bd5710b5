import Intake.Json.Basic

/-!
# Reading bytes with positions

A cursor walks over the bytes of a record and counts lines and columns. A fault names what is wrong
and a position: that of the last byte taken, or that of the next byte when it is the offender.
-/

namespace Intake

namespace Json

/-- What is wrong with a text that is no JSON. -/
inductive Problem where
  | endInValue | endInList | endInObject | endInString
  | expectedValue | expectedLiteral | expectedColon | expectedListEnd | expectedObjectEnd
  | trailingComma | trailingText | nameNotString
  | invalidNumber | numberOutOfRange
  | invalidEscape | controlCharacter | loneSurrogate | unfinishedSurrogate | invalidEncoding
  | tooDeep
  deriving DecidableEq, Repr

/-- The description of a problem. -/
def Problem.message : Problem → String
  | endInValue => "EOF while parsing a value"
  | endInList => "EOF while parsing a list"
  | endInObject => "EOF while parsing an object"
  | endInString => "EOF while parsing a string"
  | expectedValue => "expected value"
  | expectedLiteral => "expected ident"
  | expectedColon => "expected \x60:\x60"
  | expectedListEnd => "expected \x60,\x60 or \x60]\x60"
  | expectedObjectEnd => "expected \x60,\x60 or \x60\x7d\x60"
  | trailingComma => "trailing comma"
  | trailingText => "trailing characters"
  | nameNotString => "key must be a string"
  | invalidNumber => "invalid number"
  | numberOutOfRange => "number out of range"
  | invalidEscape => "invalid escape"
  | controlCharacter => "control character (\\u0000-\\u001F) found while parsing a string"
  | loneSurrogate => "lone leading surrogate in hex escape"
  | unfinishedSurrogate => "unexpected end of hex escape"
  | invalidEncoding => "invalid unicode code point"
  | tooDeep => "recursion limit exceeded"

/-- A problem and where it is. -/
structure Fault where
  problem : Problem
  line : Nat
  column : Nat
  deriving DecidableEq, Repr

/-- The description of a fault. -/
def Fault.message (fault : Fault) : String :=
  fault.problem.message ++ " at line " ++ decimal fault.line ++ " column " ++ decimal fault.column

/-- The bytes that are left, and how far the text was read. -/
structure Cursor where
  rest : List UInt8
  line : Nat := 1
  column : Nat := 0

/-- A reader of the front of a text. -/
abbrev Reader := StateT Cursor (Except Fault)

namespace Cursor

/-- The position after one more byte. -/
def step (cursor : Cursor) (byte : UInt8) (rest : List UInt8) : Cursor :=
  if byte = 10 then { rest := rest, line := cursor.line + 1, column := 0 }
  else { cursor with rest := rest, column := cursor.column + 1 }

/-- The cursor after its first byte. -/
def advance (cursor : Cursor) : Cursor :=
  match cursor.rest with
  | byte :: rest => cursor.step byte rest
  | [] => cursor

/-- A problem with the last byte taken. -/
def fault (cursor : Cursor) (problem : Problem) : Fault :=
  { problem := problem, line := cursor.line, column := cursor.column }

/-- A problem with the next byte, or with the end where there is none. -/
def faultAhead (cursor : Cursor) (problem : Problem) : Fault := cursor.advance.fault problem

/-- The cursor after a number of bytes. -/
def skip : Nat → Cursor → Cursor
  | 0, cursor => cursor
  | count + 1, cursor => skip count cursor.advance

end Cursor

/-- The next byte, which is not taken. -/
def peek : Reader (Option UInt8) := fun cursor => .ok (cursor.rest.head?, cursor)

/-- Take a byte. -/
def take : Reader Unit := fun cursor => .ok ((), cursor.advance)

/-- Fail at the last byte taken. -/
def fail {α : Type} (problem : Problem) : Reader α := fun cursor => .error (cursor.fault problem)

/-- Fail at the next byte. -/
def failAhead {α : Type} (problem : Problem) : Reader α := fun cursor =>
  .error (cursor.faultAhead problem)

/-- Take a byte, which must be there. -/
def next (missing : Problem) : Reader UInt8 := fun cursor =>
  match cursor.rest with
  | byte :: rest => .ok (byte, cursor.step byte rest)
  | [] => .error (cursor.fault missing)

/-- A byte between values that has no meaning. -/
def isSpace (byte : UInt8) : Bool := byte == 32 || byte == 9 || byte == 10 || byte == 13

/-- An ASCII digit. -/
def isDigitByte (byte : UInt8) : Bool := 48 ≤ byte && byte ≤ 57

/-- Walk over the bytes of a class at the front. -/
def skipBytes (accepts : UInt8 → Bool) (cursor : Cursor) : List UInt8 → Cursor
  | byte :: rest => if accepts byte then skipBytes accepts (cursor.step byte rest) rest else cursor
  | [] => cursor

/-- Skip blanks, and look at the byte after them. -/
def peekAfterSpace : Reader (Option UInt8) := fun cursor =>
  let cursor := skipBytes isSpace cursor cursor.rest
  .ok (cursor.rest.head?, cursor)

end Json

end Intake
