import Intake.Layout.Scan

/-!
# RFC 2822 date-times

The form of mail headers, `Mon, 02 Jan 2006 15:04:05 -0700`, with an optional weekday, old years of
two or three digits, zone names of North America and comments at the end.
-/

namespace Intake

namespace Rfc2822

/-- The offset in hours of a named zone; the name is in lower case. Single letters other than `j`
are military zones, which say nothing. -/
def zoneHours? (name : String) : Option Int :=
  if name = "gmt" ∨ name = "ut" ∨ name = "z" then some 0
  else if name = "edt" then some (-4)
  else if name = "est" ∨ name = "cdt" then some (-5)
  else if name = "cst" ∨ name = "mdt" then some (-6)
  else if name = "mst" ∨ name = "pdt" then some (-7)
  else if name = "pst" then some (-8)
  else if name.length = 1 ∧ name ≠ "j" then some 0
  else none

/-- An ASCII letter. -/
def isLetter (c : Char) : Bool := ('a' ≤ c && c ≤ 'z') || ('A' ≤ c && c ≤ 'Z')

/-- A zone name, or a sign and four digits. -/
def zone : Scanner Int := fun text =>
  let name := text.takeWhile isLetter
  if name = [] then
    Scanner.offset { minus := false, separated := false, zulu := false, hoursAlone := false } text
  else
    (zoneHours? (String.ofList (name.map Char.toLower))).map fun hours =>
      (hours * 3600, text.drop name.length)

/-- The rest of the text after a comment, where `depth` more parentheses than this one are open. -/
def afterComment : Nat → List Char → Option (List Char)
  | _, [] => none
  | 0, ')' :: rest => some rest
  | depth + 1, ')' :: rest => afterComment depth rest
  | depth, '(' :: rest => afterComment (depth + 1) rest
  | depth, '\\' :: _ :: rest => afterComment depth rest
  | depth, _ :: rest => afterComment depth rest

/-- What follows a comment is shorter than the comment's text. -/
theorem afterComment_length {depth : Nat} {text rest : List Char}
    (found : afterComment depth text = some rest) : rest.length < text.length := by
  fun_induction afterComment depth text <;> simp_all <;> omega

/-- The text without the comments at its front. -/
def skipComments (text : List Char) : List Char :=
  match start : trimStart text with
  | '(' :: inner =>
    match found : afterComment 0 inner with
    | some rest =>
      have shorter : rest.length < text.length := by
        have inside := afterComment_length found
        have whole := trimStart_length_le text
        simp only [start, List.length_cons] at whole
        omega
      skipComments rest
    | none => text
  | _ => text
  termination_by text.length

/-- The optional weekday in front of the date; a weekday must be followed by a comma. -/
def weekday (fields : Fields) : Scanner Fields := fun text =>
  match Scanner.shortName Scanner.weekdayNames text with
  | some (index, ',' :: rest) => (fields.record? .weekday index).map fun fields => (fields, rest)
  | some _ => none
  | none => some (fields, text)

/-- The year that two, three or more digits stand for. -/
def fullYear (digits value : Nat) : Nat :=
  if digits = 2 then (if value < 50 then value + 2000 else value + 1900)
  else if digits = 3 then value + 1900
  else value

/-- The year, with at least two digits. -/
def year (fields : Fields) : Scanner Fields := fun text => do
  let (value, rest) ← Scanner.number 2 none text
  let fields ← fields.record? .year (fullYear (text.length - rest.length) value)
  some (fields, rest)

/-- The optional seconds after the minute. -/
def seconds (fields : Fields) : Scanner Fields := fun text =>
  match trimStart text with
  | ':' :: rest => do
    let (value, rest) ← Scanner.number 2 (some 2) rest
    let fields ← fields.record? .second value
    some (fields, rest)
  | _ => some (fields, text)

/-- All parts of a date-time in order, without the comments. -/
def reader : Scanner Fields := do
  Scanner.blanks
  let fields ← weekday .empty
  Scanner.blanks
  let fields ← fields.record? .day (← Scanner.number 1 (some 2))
  Scanner.someBlanks
  let fields ← fields.record? .month ((← Scanner.shortName Scanner.monthNames) + 1)
  Scanner.someBlanks
  let fields ← year fields
  Scanner.someBlanks
  let fields ← fields.recordHour? (← Scanner.number 2 (some 2))
  Scanner.blanks
  Scanner.char ':'
  Scanner.blanks
  let fields ← fields.record? .minute (← Scanner.number 2 (some 2))
  let fields ← seconds fields
  Scanner.someBlanks
  fields.record? .offset (← zone)

/-- The components of an RFC 2822 text. -/
def read? (text : String) : Option Fields := do
  let (fields, rest) ← reader text.toList
  guard (skipComments rest = [])
  some fields

/-- The instant of an RFC 2822 text. -/
def instant? (text : String) : Option Instant := (read? text).bind (·.toInstant?)

end Rfc2822

end Intake
