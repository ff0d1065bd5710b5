import Intake.Layout.Fields
import Intake.Text.Blank

/-!
# Reading pieces of a date-time

Scanners for numbers, fractions, names and offsets. A scanner takes what it needs from the front of
the text and leaves the rest, or fails.
-/

namespace Intake

/-- A reader of the front of a text. -/
abbrev Scanner := StateT (List Char) Option

namespace Scanner

/-- Skip any number of blanks. -/
def blanks : Scanner Unit := fun text => some ((), trimStart text)

/-- Skip at least one blank. -/
def someBlanks : Scanner Unit := fun text =>
  match text with
  | c :: rest => if isBlank c then some ((), trimStart rest) else none
  | [] => none

/-- Take one given character. -/
def char (expected : Char) : Scanner Unit := fun text =>
  match text with
  | c :: rest => if c = expected then some ((), rest) else none
  | [] => none

/-- Take one character of a class. -/
def oneOf (accepts : Char → Bool) : Scanner Char := fun text =>
  match text with
  | c :: rest => if accepts c then some (c, rest) else none
  | [] => none

/-- The longest run of decimal digits, of at most `most` of them. -/
def digitRun (most : Option Nat) (text : List Char) : List Char :=
  match most with
  | some most => (text.take most).takeWhile isDigit
  | none => text.takeWhile isDigit

/-- A number of at least `least` and at most `most` digits, below 2 to the 63rd. -/
def number (least : Nat) (most : Option Nat) : Scanner Nat := fun text =>
  let digits := digitRun most text
  let value := digitsValue digits 0
  if least ≤ digits.length ∧ value < 0x8000000000000000 then
    some (value, text.drop digits.length)
  else none

/-- A number with an optional sign. With a sign it may have any number of digits, without one at
most `most`. -/
def signedNumber (most : Nat) : Scanner Int := fun text =>
  match text with
  | '-' :: rest => (number 1 none rest).map fun (value, rest) => (-(value : Int), rest)
  | '+' :: rest => (number 1 none rest).map fun (value, rest) => ((value : Int), rest)
  | _ => (number 1 (some most) text).map fun (value, rest) => ((value : Int), rest)

/-- A fraction of a second: at least one digit, of which the first nine count. -/
def fraction : Scanner Nat := fun text =>
  let digits := text.takeWhile isDigit
  let counted := digits.take 9
  if digits = [] then none
  else some (digitsValue counted 0 * Nat.pow 10 (9 - counted.length), text.drop digits.length)

/-- A fraction of a second with an exact number of digits. -/
def fixedFraction (digits : Nat) : Scanner Nat := fun text =>
  (number digits (some digits) text).map fun (value, rest) =>
    (value * Nat.pow 10 (9 - digits), rest)

/-- Take a word, whatever the case of its letters; `word` is in lower case. -/
def word (word : List Char) : Scanner Unit := fun text =>
  if (text.take word.length).map Char.toLower = word then some ((), text.drop word.length) else none

/-- The first entry of a list whose short name stands here, counted from zero. -/
def shortName (names : List (List Char × List Char)) : Scanner Nat := fun text =>
  match names.findIdx? fun name => (text.take 3).map Char.toLower = name.1 with
  | some index => some (index, text.drop 3)
  | none => none

/-- A short name, and the rest of the long name if it follows. -/
def longName (names : List (List Char × List Char)) : Scanner Nat := fun text =>
  (shortName names text).map fun (index, rest) =>
    let ending := (names[index]?.map (·.2)).getD []
    if (rest.take ending.length).map Char.toLower = ending then (index, rest.drop ending.length)
    else (index, rest)

/-- The names of the months: three letters, and the letters that complete the long name. -/
def monthNames : List (List Char × List Char) :=
  [("jan".toList, "uary".toList), ("feb".toList, "ruary".toList), ("mar".toList, "ch".toList),
    ("apr".toList, "il".toList), ("may".toList, []), ("jun".toList, "e".toList),
    ("jul".toList, "y".toList), ("aug".toList, "ust".toList), ("sep".toList, "tember".toList),
    ("oct".toList, "ober".toList), ("nov".toList, "ember".toList), ("dec".toList, "ember".toList)]

/-- The names of the weekdays from Monday: three letters, and the letters that complete the long
name. -/
def weekdayNames : List (List Char × List Char) :=
  [("mon".toList, "day".toList), ("tue".toList, "sday".toList), ("wed".toList, "nesday".toList),
    ("thu".toList, "rsday".toList), ("fri".toList, "day".toList), ("sat".toList, "urday".toList),
    ("sun".toList, "day".toList)]

/-- The mark of a half of the day: 0 before noon, 1 after. -/
def halfOfDay : Scanner Nat := fun text =>
  match text with
  | a :: m :: rest =>
    if m.toLower = 'm' then
      if a.toLower = 'a' then some (0, rest) else if a.toLower = 'p' then some (1, rest) else none
    else none
  | _ => none

/-- The sign of an offset: true for a minus sign. The mathematical minus sign U+2212 counts where
`minus` allows it. -/
def offsetSign (minus : Bool) : Scanner Bool := fun text =>
  match text with
  | '+' :: rest => some (false, rest)
  | '-' :: rest => some (true, rest)
  | '\u2212' :: rest => if minus then some (true, rest) else none
  | _ => none

/-- Two digits of which the first is at most `high`. -/
def twoDigits (high : Char) : Scanner Nat := fun text =>
  match text with
  | a :: b :: rest =>
    if isDigit a ∧ a ≤ high ∧ isDigit b then some (digitValue a * 10 + digitValue b, rest) else none
  | _ => none

/-- A count of seconds with a sign. -/
def signed (negative : Bool) (size : Nat) : Int := if negative then -(size : Int) else size

/-- How an offset may be written beyond a sign, hours and minutes. -/
structure OffsetForm where
  /-- The mathematical minus sign is a sign. -/
  minus : Bool
  /-- Colons and blanks may separate hours and minutes. -/
  separated : Bool
  /-- `Z` stands for no offset. -/
  zulu : Bool
  /-- The minutes may be missing at the end of the text. -/
  hoursAlone : Bool

/-- An offset in seconds. -/
def offset (form : OffsetForm) : Scanner Int := fun text =>
  match text with
  | 'Z' :: rest => if form.zulu then some (0, rest) else none
  | 'z' :: rest => if form.zulu then some (0, rest) else none
  | _ => do
    let (negative, text) ← offsetSign form.minus text
    let (hours, text) ← twoDigits '9' text
    let text := if form.separated then text.dropWhile fun c => c == ':' || isBlank c else text
    if form.hoursAlone ∧ text = [] then some (signed negative (hours * 3600), [])
    else
      let (minutes, text) ← twoDigits '5' text
      some (signed negative (hours * 3600 + minutes * 60), text)

end Scanner

end Intake
