import Intake.Layout.Scan

/-!
# Date-time patterns

A pattern is a text in which `%` introduces the components of a date-time. It is read into a list of
items, and the items are matched against a value from left to right. Compound specifiers such as
`%T` stand for the items they abbreviate.
-/

namespace Intake

/-- A component written as a number. -/
inductive Numeric where
  | year | century | yearOfCentury | isoYear | isoYearOfCentury | quarter | month | day
  | weekFromSunday | weekFromMonday | isoWeek | weekdayFromSunday | weekdayFromMonday | ordinal
  | hour | hour12 | minute | second | nano | timestamp
  deriving DecidableEq, Repr

namespace Numeric

/-- The greatest number of digits, where there is a limit. -/
def width : Numeric → Option Nat
  | quarter | weekdayFromSunday | weekdayFromMonday => some 1
  | ordinal => some 3
  | year | isoYear => some 4
  | nano => some 9
  | timestamp => none
  | _ => some 2

/-- Scan the number. Years may carry a sign. -/
def scan (numeric : Numeric) : Scanner Int :=
  match numeric with
  | year | isoYear => Scanner.signedNumber 4
  | _ => fun text => (Scanner.number 1 numeric.width text).map fun (value, rest) => (value, rest)

/-- Take note of the number that was scanned. -/
def record? (numeric : Numeric) (fields : Fields) (value : Int) : Option Fields :=
  match numeric with
  | year => fields.record? .year value
  | century => fields.record? .century value
  | yearOfCentury => fields.record? .yearOfCentury value
  | isoYear => fields.record? .isoYear value
  | isoYearOfCentury => fields.record? .isoYearOfCentury value
  | quarter => fields.record? .quarter value
  | month => fields.record? .month value
  | day => fields.record? .day value
  | weekFromSunday => fields.record? .weekFromSunday value
  | weekFromMonday => fields.record? .weekFromMonday value
  | isoWeek => fields.record? .isoWeek value
  | weekdayFromSunday => if value ≤ 6 then fields.record? .weekday ((value + 6) % 7) else none
  | weekdayFromMonday => fields.record? .weekday (value - 1)
  | ordinal => fields.record? .ordinal value
  | hour => fields.recordHour? value
  | hour12 => fields.recordHour12? value
  | minute => fields.record? .minute value
  | second => fields.record? .second value
  | nano => fields.record? .nano value
  | timestamp => fields.record? .timestamp value

/-- The number that a specifier letter stands for. -/
def ofLetter? : Char → Option Numeric
  | 'C' => some century | 'G' => some isoYear | 'H' => some hour | 'I' => some hour12
  | 'M' => some minute | 'S' => some second | 'U' => some weekFromSunday | 'V' => some isoWeek
  | 'W' => some weekFromMonday | 'Y' => some year | 'd' => some day | 'e' => some day
  | 'f' => some nano | 'g' => some isoYearOfCentury | 'j' => some ordinal | 'k' => some hour
  | 'l' => some hour12 | 'm' => some month | 'q' => some quarter | 's' => some timestamp
  | 'u' => some weekdayFromMonday | 'w' => some weekdayFromSunday | 'y' => some yearOfCentury
  | _ => none

end Numeric

/-- One step of matching a value. -/
inductive Item where
  /-- A character that stands for itself. -/
  | literal (c : Char)
  /-- Any number of blanks. -/
  | blanks
  /-- A number, after any blanks. -/
  | numeric (kind : Numeric)
  /-- The name of a month, in short or optionally in full. -/
  | month (long : Bool)
  /-- The name of a weekday, in short or optionally in full. -/
  | weekday (long : Bool)
  /-- The half of the day. -/
  | halfOfDay
  /-- A point and a fraction of the second, or nothing. -/
  | fraction
  /-- A point and a fraction of exactly so many digits, or nothing. -/
  | pointFraction (digits : Nat)
  /-- A fraction of exactly so many digits. -/
  | bareFraction (digits : Nat)
  /-- The name of a zone, which says nothing. -/
  | zoneName
  /-- An offset of hours and minutes. -/
  | offset
  /-- An offset that may be `Z` or lack its minutes. -/
  | looseOffset
  /-- An offset that may be `Z` or `UTC`. -/
  | namedOffset
  /-- What separates a date from a time: `T` or a space. -/
  | dateTimeMark
  /-- Nothing matches. -/
  | never
  deriving DecidableEq, Repr

namespace Item

/-- The offsets that patterns read. -/
def offsetForm : Scanner.OffsetForm :=
  { minus := true, separated := true, zulu := false, hoursAlone := false }

/-- Match one item and take note of what it reads. -/
def scan (item : Item) (fields : Fields) : Scanner Fields :=
  match item with
  | literal c => do Scanner.char c; pure fields
  | blanks => do Scanner.blanks; pure fields
  | numeric kind => do
    Scanner.blanks
    let value ← kind.scan
    kind.record? fields value
  | month long => do
    let index ← if long then Scanner.longName Scanner.monthNames
      else Scanner.shortName Scanner.monthNames
    fields.record? .month (index + 1)
  | weekday long => do
    let index ← if long then Scanner.longName Scanner.weekdayNames
      else Scanner.shortName Scanner.weekdayNames
    fields.record? .weekday index
  | halfOfDay => do
    let half ← Scanner.halfOfDay
    fields.record? .halfOfDay half
  | fraction => fun text =>
    match text with
    | '.' :: rest => do
      let (nano, rest) ← Scanner.fraction rest
      let fields ← fields.record? .nano nano
      some (fields, rest)
    | _ => some (fields, text)
  | pointFraction digits => fun text =>
    match text with
    | '.' :: rest => do
      let (nano, rest) ← Scanner.fixedFraction digits rest
      let fields ← fields.record? .nano nano
      some (fields, rest)
    | _ => some (fields, text)
  | bareFraction digits => do
    let nano ← Scanner.fixedFraction digits
    fields.record? .nano nano
  | zoneName => fun text => some (fields, text.dropWhile fun c => !isBlank c)
  | offset => do
    Scanner.blanks
    let seconds ← Scanner.offset offsetForm
    fields.record? .offset seconds
  | looseOffset => do
    Scanner.blanks
    let seconds ← Scanner.offset { offsetForm with zulu := true, hoursAlone := true }
    fields.record? .offset seconds
  | namedOffset => do
    Scanner.blanks
    let seconds ← (do Scanner.word "utc".toList; pure 0) <|>
      Scanner.offset { offsetForm with zulu := true }
    fields.record? .offset seconds
  | dateTimeMark => do
    let _ ← Scanner.oneOf fun c => c == 't' || c == 'T' || c == ' '
    pure fields
  | never => fun _ => none

/-- Match items in order. -/
def scanAll : List Item → Fields → Scanner Fields
  | [], fields => pure fields
  | item :: items, fields => do
    let fields ← item.scan fields
    scanAll items fields

end Item

namespace Pattern

open Item

/-- Year, month and day with dashes. -/
def isoDate : List Item :=
  [numeric .year, literal '-', numeric .month, literal '-', numeric .day]

/-- Month, day and two digits of the year with slashes. -/
def shortDate : List Item :=
  [numeric .month, literal '/', numeric .day, literal '/', numeric .yearOfCentury]

/-- Hour and minute. -/
def hourMinute : List Item := [numeric .hour, literal ':', numeric .minute]

/-- Hour, minute and second. -/
def hourMinuteSecond : List Item := hourMinute ++ [literal ':', numeric .second]

/-- A date and a time with an offset, blanks being allowed between them. -/
def looseDateTime : List Item :=
  [numeric .year, blanks, literal '-', numeric .month, blanks, literal '-', numeric .day,
    dateTimeMark, numeric .hour, blanks, literal ':', numeric .minute, blanks, literal ':',
    numeric .second, fraction, blanks, namedOffset]

/-- The items of a specifier that is a single letter. -/
def ofLetter? (letter : Char) : Option (List Item) :=
  match Numeric.ofLetter? letter with
  | some kind => some [numeric kind]
  | none =>
    match letter with
    | 'A' => some [weekday true]
    | 'B' => some [month true]
    | 'D' | 'x' => some shortDate
    | 'F' => some isoDate
    | 'P' | 'p' => some [halfOfDay]
    | 'R' => some hourMinute
    | 'T' | 'X' => some hourMinuteSecond
    | 'Z' => some [zoneName]
    | 'a' => some [weekday false]
    | 'b' | 'h' => some [month false]
    | 'c' => some ([weekday false, blanks, month false, blanks, numeric .day, blanks] ++
        hourMinuteSecond ++ [blanks, numeric .year])
    | 'n' | 't' => some [blanks]
    | 'r' => some [numeric .hour12, literal ':', numeric .minute, literal ':', numeric .second,
        blanks, halfOfDay]
    | 'v' => some [numeric .day, literal '-', month false, literal '-', numeric .year]
    | 'z' => some [offset]
    | '+' => some looseDateTime
    | '%' => some [literal '%']
    | _ => none

/-- The items of the specifier that follows a percent sign, and the rest of the pattern. A padding
mark `-`, `_` or `0` is allowed in front of a single number and makes no difference. -/
def specifier? : List Char → Option (List Item × List Char)
  | '-' :: letter :: rest | '_' :: letter :: rest | '0' :: letter :: rest =>
    (Numeric.ofLetter? letter).map fun kind => ([numeric kind], rest)
  | '#' :: 'z' :: rest => some ([looseOffset], rest)
  | ':' :: ':' :: ':' :: 'z' :: rest => some ([offset], rest)
  | ':' :: ':' :: 'z' :: rest => some ([offset], rest)
  | ':' :: 'z' :: rest => some ([offset], rest)
  | '.' :: 'f' :: rest => some ([fraction], rest)
  | '.' :: '3' :: 'f' :: rest => some ([pointFraction 3], rest)
  | '.' :: '6' :: 'f' :: rest => some ([pointFraction 6], rest)
  | '.' :: '9' :: 'f' :: rest => some ([pointFraction 9], rest)
  | '3' :: 'f' :: rest => some ([bareFraction 3], rest)
  | '6' :: 'f' :: rest => some ([bareFraction 6], rest)
  | '9' :: 'f' :: rest => some ([bareFraction 9], rest)
  | letter :: rest => (ofLetter? letter).map fun items => (items, rest)
  | [] => none

/-- A specifier takes at least one character of the pattern. -/
theorem specifier?_length {text rest : List Char} {items : List Item}
    (found : specifier? text = some (items, rest)) : rest.length < text.length := by
  unfold specifier? at found
  split at found <;> simp_all <;> (try obtain ⟨_, _, _, rfl⟩ := found) <;> (try simp_all) <;> omega

/-- The items of a pattern. A specifier that does not exist matches nothing. -/
def items (text : List Char) : List Item :=
  match text with
  | [] => []
  | '%' :: rest =>
    match found : specifier? rest with
    | some (specified, rest) =>
      have := specifier?_length found
      specified ++ items rest
    | none => [never]
  | c :: rest => (if isBlank c then blanks else literal c) :: items rest
  termination_by text.length

/-- Match a whole value against a pattern. -/
def read? (pattern value : String) : Option Fields :=
  match Item.scanAll (items pattern.toList) .empty value.toList with
  | some (fields, []) => some fields
  | _ => none

end Pattern

end Intake
