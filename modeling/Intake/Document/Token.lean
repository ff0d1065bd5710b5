import Intake.Document.Node
import Intake.Document.Text
import Intake.Text.Utf8

/-!
# Tokens of a document

The marks, names and scalars that a document consists of. Indentation is a token too: the start and
the end of each block collection.
-/

namespace Intake

namespace Document

/-- A tag as it is written: a handle, which stands for the first part of the tag, and the rest. -/
structure WrittenTag where
  handle : String
  rest : String
  deriving DecidableEq, Repr

/-- The tokens. -/
inductive Token where
  /-- A directive with the version of the format. -/
  | version (major minor : Nat)
  /-- A directive that lets a handle stand for the first part of tags. -/
  | shorthand (handle lead : String)
  | documentStart
  | documentEnd
  | blockSequenceStart
  | blockMappingStart
  | blockEnd
  | sequenceStart
  | sequenceEnd
  | mappingStart
  | mappingEnd
  /-- The dash before an item of a block sequence. -/
  | item
  /-- The comma inside brackets. -/
  | comma
  /-- What follows is a key. -/
  | key
  /-- What follows is a value. -/
  | value
  | alias (name : String)
  | anchor (name : String)
  | tag (tag : WrittenTag)
  | scalar (text : String) (style : ScalarStyle)
  deriving DecidableEq, Repr

/-!
## Names and tags
-/

/-- Characters that may follow a name. -/
def endsName (c : Option Char) : Bool :=
  endsWord c || c.any fun c => ['?', ':', ',', ']', '\x7d', '%', '@', '\x60'].contains c

/-- Read the name of an anchor behind its sign. -/
def anchorName (cursor : Cursor) : Option (String × Cursor) :=
  let (name, cursor) := cursor.takeWhile isNameChar
  if name ≠ [] ∧ endsName cursor.peek then some (String.ofList name, cursor) else none

/-- Read a tag handle: an exclamation mark and name characters, closed by a second mark. Without the
second mark the text read is no handle but the start of a tag. -/
def tagHandle (cursor : Cursor) : Option (List Char × Cursor) :=
  if cursor.peek = some '!' then
    let (name, cursor) := (cursor.advance 1).takeWhile isNameChar
    if cursor.peek = some '!' then some ('!' :: name ++ ['!'], cursor.advance 1)
    else some ('!' :: name, cursor)
  else none

/-- Characters of tags. -/
def isTagChar (verbatim : Bool) (c : Char) : Bool :=
  isNameChar c || ";/?:@&=+$.!~*'()".toList.contains c || (verbatim && [',', '[', ']'].contains c)

/-- The bytes that a run of percent escapes stands for. -/
def escapedBytes : List Char → Option (List UInt8)
  | '%' :: high :: low :: rest => do
    let high ← hexValue? high
    let low ← hexValue? low
    return (high * 16 + low).toUInt8 :: (← escapedBytes rest)
  | '%' :: _ => none
  | _ => some []

/-- Read the characters of a tag. Percent escapes stand for the bytes of characters. -/
def tagText (verbatim : Bool) : Nat → Cursor → Option (List Char × Cursor)
  | 0, cursor => some ([], cursor)
  | steps + 1, cursor =>
    match cursor.peek with
    | none => some ([], cursor)
    | some c =>
      if c = '%' then do
        let bytes ← escapedBytes cursor.rest
        let (decoded, rest) ← Utf8.decodeChar? bytes
        let escapes := bytes.length - rest.length
        let (text, cursor) ← tagText verbatim steps (cursor.advance (3 * escapes))
        some (decoded :: text, cursor)
      else if isTagChar verbatim c then do
        let (text, cursor) ← tagText verbatim steps (cursor.advance 1)
        some (c :: text, cursor)
      else some ([], cursor)

/-- Read a tag between angle brackets, behind the first of them. -/
def verbatimTag (cursor : Cursor) : Option (WrittenTag × Cursor) := do
  let (text, cursor) ← tagText true cursor.rest.length cursor
  guard (text ≠ [] ∧ cursor.peek = some '>')
  some ({ handle := "", rest := String.ofList text }, cursor.advance 1)

/-- Read a tag that begins with a handle or with a single mark. The mark alone is a tag as well. -/
def shortTag (cursor : Cursor) : Option (WrittenTag × Cursor) := do
  let (handle, cursor) ← tagHandle cursor
  let (text, cursor) ← tagText false cursor.rest.length cursor
  if 1 < handle.length ∧ handle.getLast? = some '!' then
    guard (text ≠ [])
    some ({ handle := String.ofList handle, rest := String.ofList text }, cursor)
  else
    let rest := handle.drop 1 ++ text
    if rest = [] then some ({ handle := "", rest := "!" }, cursor)
    else some ({ handle := "!", rest := String.ofList rest }, cursor)

/-- Read a tag at its mark. -/
def writtenTag (inBrackets : Bool) (cursor : Cursor) : Option (WrittenTag × Cursor) := do
  let (tag, cursor) ←
    if cursor.ahead 1 = some '<' then verbatimTag (cursor.advance 2) else shortTag cursor
  guard (endsWord cursor.peek || (inBrackets && cursor.peek == some ','))
  some (tag, cursor)

/-!
## Directives
-/

/-- Read a part of a version number: one to nine digits. -/
def versionPart (cursor : Cursor) : Option (Nat × Cursor) :=
  let (digits, cursor) := cursor.takeWhile Char.isDigit
  if digits ≠ [] ∧ digits.length ≤ 9 then
    some (digits.foldl (fun value c => value * 10 + (c.toNat - '0'.toNat)) 0, cursor)
  else none

/-- Read the version number of a directive. -/
def versionDirective (cursor : Cursor) : Option (Token × Cursor) := do
  let (major, cursor) ← versionPart (cursor.skipWhile isPadding)
  guard (cursor.peek = some '.')
  let (minor, cursor) ← versionPart (cursor.advance 1)
  some (.version major minor, cursor)

/-- Read the handle of a directive and what it stands for. -/
def shorthandDirective (cursor : Cursor) : Option (Token × Cursor) := do
  let (handle, cursor) ← tagHandle (cursor.skipWhile isPadding)
  guard (handle = ['!'] ∨ (1 < handle.length ∧ handle.getLast? = some '!'))
  guard (cursor.peek.any isPadding)
  let cursor := cursor.skipWhile isPadding
  let (lead, cursor) ← tagText true cursor.rest.length cursor
  guard (lead ≠ [] ∧ endsWord cursor.peek)
  some (.shorthand (String.ofList handle) (String.ofList lead), cursor)

/-- Read a directive at its sign, with the rest of its line. -/
def directive (cursor : Cursor) : Option (Token × Cursor) := do
  let (name, cursor) := (cursor.advance 1).takeWhile isNameChar
  guard (endsWord cursor.peek)
  let (token, cursor) ←
    if name = "YAML".toList then versionDirective cursor
    else if name = "TAG".toList then shorthandDirective cursor
    else none
  let cursor ← cursor.restOfLine?
  some (token, cursor)

end Document

end Intake
