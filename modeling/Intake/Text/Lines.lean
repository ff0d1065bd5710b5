import Intake.Text.Blank
import Intake.Text.Utf8

/-!
# Lines of an input

Lines end with a line feed, which a carriage return may precede; the last line need not end. They
are counted from one, and all of them count. Lines are read up to the first that is not UTF-8.
-/

namespace Intake

/-- A line of an input. -/
structure InputLine where
  /-- The position of the line, counted from one. -/
  number : Nat
  bytes : List UInt8
  text : List Char
  deriving DecidableEq

/-- The line holds nothing but blanks. -/
def InputLine.isBlank (line : InputLine) : Bool := line.text.all Intake.isBlank

/-- The line feed. -/
def lineFeed : UInt8 := 10

/-- A line without the carriage return before its line feed. -/
def dropReturn (line : List UInt8) : List UInt8 :=
  if line.getLast? = some 13 then line.dropLast else line

/-- The bytes of the lines, from some bytes of the first line on. -/
def byteLines (line : List UInt8) : List UInt8 → List (List UInt8)
  | [] => if line = [] then [] else [line.reverse]
  | byte :: rest =>
    if byte = lineFeed then dropReturn line.reverse :: byteLines [] rest
    else byteLines (byte :: line) rest

/-- The lines of an input up to the first that is not UTF-8. -/
structure InputLines where
  lines : List InputLine
  /-- All lines are UTF-8. -/
  complete : Bool

namespace InputLines

/-- Read lines, the first of them with a number. -/
def ofByteLines (number : Nat) : List (List UInt8) → InputLines
  | [] => ⟨[], true⟩
  | bytes :: rest =>
    match Utf8.decode? bytes with
    | none => ⟨[], false⟩
    | some text =>
      let others := ofByteLines (number + 1) rest
      { others with lines := { number := number, bytes := bytes, text := text } :: others.lines }

/-- The lines of an input. -/
def ofBytes (bytes : List UInt8) : InputLines := ofByteLines 1 (byteLines [] bytes)

/-- The lines that are not blank. -/
def filled (input : InputLines) : List InputLine := input.lines.filter fun line => !line.isBlank

end InputLines

end Intake
