import Intake.Json.Numeral
import Intake.Text.Utf8

/-!
# Reading JSON

The text is read once from left to right, and the first fault ends the reading. Containers nest at
most 127 deep.
-/

namespace Intake

namespace Json

/-- Take the bytes of a literal after its first one. -/
def literalReader (value : Json) : List UInt8 → Reader Json
  | [] => pure value
  | expected :: rest => do
    let byte ← next .endInValue
    if byte = expected then literalReader value rest else fail .expectedLiteral

/-- The value of a hexadecimal digit. -/
def hexValue? (byte : UInt8) : Option Nat :=
  if isDigitByte byte then some (digitByteValue byte)
  else if 97 ≤ byte ∧ byte ≤ 102 then some (byte.toNat - 87)
  else if 65 ≤ byte ∧ byte ≤ 70 then some (byte.toNat - 55)
  else none

/-- Four hexadecimal digits. -/
def hexUnit : Reader Nat := fun cursor =>
  match cursor.rest with
  | a :: b :: c :: d :: _ =>
    let after := cursor.skip 4
    match hexValue? a, hexValue? b, hexValue? c, hexValue? d with
    | some a, some b, some c, some d => .ok (((a * 16 + b) * 16 + c) * 16 + d, after)
    | _, _, _, _ => .error (after.fault .invalidEscape)
  | rest => .error ((cursor.skip rest.length).fault .endInString)

/-- One byte that must continue a surrogate pair. -/
def pairByte (expected : UInt8) : Reader Unit := do
  let byte ← next .endInString
  if byte = expected then pure () else fail .unfinishedSurrogate

/-- The character of a Unicode escape, of one unit or a pair of surrogates. -/
def unicodeEscape : Reader Char := do
  let unit ← hexUnit
  if 0xDC00 ≤ unit ∧ unit ≤ 0xDFFF then fail .loneSurrogate
  else if 0xD800 ≤ unit ∧ unit ≤ 0xDBFF then
    pairByte 92
    pairByte 117
    let low ← hexUnit
    if 0xDC00 ≤ low ∧ low ≤ 0xDFFF then
      pure (Char.ofNat ((unit - 0xD800) * 0x400 + (low - 0xDC00) + 0x10000))
    else fail .loneSurrogate
  else pure (Char.ofNat unit)

/-- The bytes that an escape stands for, after its backslash. -/
def escape : Reader (List UInt8) := do
  let byte ← next .endInString
  match byte.toNat with
  | 34 | 92 | 47 => pure [byte]
  | 98 => pure [8]
  | 102 => pure [12]
  | 110 => pure [10]
  | 114 => pure [13]
  | 116 => pure [9]
  | 117 => return String.utf8EncodeChar (← unicodeEscape)
  | _ => fail .invalidEscape

/-- The bytes of a string up to its closing quote, in reverse order. Each step takes a byte. -/
def stringBytes : Nat → List UInt8 → Reader (List UInt8)
  | 0, _ => fail .endInString
  | fuel + 1, content => do
    let byte ← next .endInString
    if byte = 34 then pure content
    else if byte = 92 then
      let escaped ← escape
      stringBytes fuel (escaped.reverse ++ content)
    else if byte < 32 then fail .controlCharacter
    else stringBytes fuel (byte :: content)

/-- A string after its opening quote. Its bytes must be UTF-8; the fault points at the first one
that is not. -/
def stringReader : Reader String := fun cursor => do
  let (content, cursor) ← stringBytes (cursor.rest.length + 1) [] cursor
  match Utf8.decodeValid content.reverse with
  | (text, []) => .ok (String.ofList text, cursor)
  | (_, invalid) =>
    .error { cursor.fault .invalidEncoding with column := cursor.column - invalid.length }

/-- The number of containers that may be open at once, and one more. -/
def depthLimit : Nat := 128

/-- What stands between the elements of a container. -/
structure Brackets where
  closing : UInt8
  atEnd : Problem
  expected : Problem

/-- Arrays end with a bracket. -/
def listBrackets : Brackets :=
  { closing := 93, atEnd := .endInList, expected := .expectedListEnd }

/-- Objects end with a brace. -/
def objectBrackets : Brackets :=
  { closing := 125, atEnd := .endInObject, expected := .expectedObjectEnd }

/-- Take a comma where one is due. The answer says whether an element follows; the closing bracket
is taken. -/
def continues (brackets : Brackets) (first : Bool) : Reader Bool := do
  match ← peekAfterSpace with
  | none => failAhead brackets.atEnd
  | some byte =>
    if byte = brackets.closing then
      take
      pure false
    else if first then pure true
    else if byte = 44 then
      take
      match ← peekAfterSpace with
      | none => failAhead .endInValue
      | some byte => if byte = brackets.closing then failAhead .trailingComma else pure true
    else failAhead brackets.expected

/-- The name of a member and the colon after it. -/
def memberName : Reader String := do
  match ← peekAfterSpace with
  | some 34 =>
    take
    let name ← stringReader
    match ← peekAfterSpace with
    | some 58 =>
      take
      pure name
    | some _ => failAhead .expectedColon
    | none => failAhead .endInObject
  | _ => failAhead .nameNotString

mutual

/-- A value with `depth` more containers allowed around its parts. -/
def valueReader : Nat → Nat → Reader Json
  | 0, _ => failAhead .expectedValue
  | fuel + 1, depth => do
    match ← peekAfterSpace with
    | none => failAhead .endInValue
    | some byte =>
      match byte.toNat with
      | 110 => take; literalReader .null [117, 108, 108]
      | 116 => take; literalReader (.bool true) [114, 117, 101]
      | 102 => take; literalReader (.bool false) [97, 108, 115, 101]
      | 45 => take; return .number (← numberReader true)
      | 34 => take; return .string (← stringReader)
      | 91 =>
        if depth ≤ 1 then failAhead .tooDeep
        else take; return .array (← itemsReader fuel (depth - 1) true)
      | 123 =>
        if depth ≤ 1 then failAhead .tooDeep
        else take; return .ofMembers (← membersReader fuel (depth - 1) true)
      | _ =>
        if isDigitByte byte then return .number (← numberReader false)
        else failAhead .expectedValue

/-- The items of an array after its bracket. -/
def itemsReader : Nat → Nat → Bool → Reader (List Json)
  | 0, _, _ => failAhead .endInList
  | fuel + 1, depth, first => do
    if ← continues listBrackets first then
      let item ← valueReader fuel depth
      let rest ← itemsReader fuel depth false
      pure (item :: rest)
    else pure []

/-- The members of an object after its brace, in the order they are written. -/
def membersReader : Nat → Nat → Bool → Reader (List (String × Json))
  | 0, _, _ => failAhead .endInObject
  | fuel + 1, depth, first => do
    if ← continues objectBrackets first then
      let name ← memberName
      let value ← valueReader fuel depth
      let rest ← membersReader fuel depth false
      pure ((name, value) :: rest)
    else pure []

end

/-- The value that a text holds. Every call takes a byte or is the last one of its value, so twice
the length bounds the calls. -/
def read (bytes : List UInt8) : Except Fault Json := do
  let (value, cursor) ← valueReader (2 * bytes.length + 2) depthLimit { rest := bytes }
  let (ahead, cursor) ← peekAfterSpace cursor
  if ahead.isSome then .error (cursor.faultAhead .trailingText) else .ok value

/-- The value that a text in UTF-8 holds. -/
def readText (text : String) : Except Fault Json := read text.toUTF8.toList

end Json

end Intake
