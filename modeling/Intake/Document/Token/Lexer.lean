import Intake.Document.Scalar
import Intake.Document.Token

/-!
# Reading the tokens of a document

Block collections begin where a line is indented further than the collection around it and end where
one is indented less. A key is known as a key only by the colon behind it, so the place where a key
may have begun is kept, one for each level of brackets; it is given up when the line ends.
-/

namespace Intake

namespace Document

/-- A place where a key may have begun. -/
structure KeyPlace where
  /-- The number of tokens before it. -/
  position : Nat
  /-- Nothing but a key may stand here. -/
  required : Bool
  index : Nat
  line : Nat
  column : Nat

/-- The greatest distance between the start of a key and its colon. -/
def longestKey : Nat := 1024

/-- A lexer at work. -/
structure Lexer where
  cursor : Cursor
  tokens : Array Token := #[]
  /-- The place of a key on this level of brackets. -/
  place : Option KeyPlace := none
  /-- The places on the levels around this one, the nearest first. -/
  outerPlaces : List (Option KeyPlace) := []
  /-- A key may begin here. -/
  keyAllowed : Bool := true
  /-- The indentation of the innermost block collection, or -1. -/
  indent : Int := -1
  /-- The indentations of the collections around it, the nearest first. -/
  outerIndents : List Int := []

namespace Lexer

/-- The lexer is inside brackets. -/
def inBrackets (lexer : Lexer) : Bool := !lexer.outerPlaces.isEmpty

/-- Add a token. -/
def emit (lexer : Lexer) (token : Token) : Lexer := { lexer with tokens := lexer.tokens.push token }

/-- Add a token before the others from a position on. -/
def emitAt (lexer : Lexer) (position : Nat) (token : Token) : Lexer :=
  { lexer with tokens := lexer.tokens.insertIdxIfInBounds position token }

/-- Move past characters of one line. -/
def advance (lexer : Lexer) (count : Nat) : Lexer :=
  { lexer with cursor := lexer.cursor.advance count }

/-- Say whether a key may begin next. -/
def allowKey (lexer : Lexer) (allowed : Bool) : Lexer := { lexer with keyAllowed := allowed }

/-!
## Where keys may begin
-/

/-- Give up the place on this level. A key that is required must not be given up. -/
def dropPlace (lexer : Lexer) : Option Lexer :=
  match lexer.place with
  | some place => if place.required then none else some { lexer with place := none }
  | none => some lexer

/-- Keep this place, if a key may begin here. -/
def keepPlace (lexer : Lexer) : Option Lexer :=
  if lexer.keyAllowed then do
    let lexer ← lexer.dropPlace
    let cursor := lexer.cursor
    some
      { lexer with
        place := some
          { position := lexer.tokens.size
            required := !lexer.inBrackets && lexer.indent == cursor.column
            index := cursor.index
            line := cursor.line
            column := cursor.column } }
  else some lexer

/-- A place as it is seen from the cursor: given up when its line has ended or is too long. -/
def agedPlace (cursor : Cursor) (place : Option KeyPlace) : Option (Option KeyPlace) :=
  match place with
  | some kept =>
    if kept.line < cursor.line ∨ kept.index + longestKey < cursor.index then
      if kept.required then none else some none
    else some place
  | none => some none

/-- Give up all places that are too far away. -/
def agePlaces (lexer : Lexer) : Option Lexer := do
  let outer ← lexer.outerPlaces.mapM (agedPlace lexer.cursor)
  let place ← agedPlace lexer.cursor lexer.place
  some { lexer with place := place, outerPlaces := outer }

/-!
## Indentation
-/

/-- Begin a block collection at a column, unless one has begun there. -/
def openBlock (lexer : Lexer) (column : Nat) (position : Nat) (token : Token) : Lexer :=
  if !lexer.inBrackets && lexer.indent < (column : Int) then
    { lexer with
      indent := column
      outerIndents := lexer.indent :: lexer.outerIndents }.emitAt position token
  else lexer

/-- The ends of block collections that are indented further than a column: how many, and the
indentations that are left. -/
def blocksToClose (column : Int) : Int → List Int → Nat × Int × List Int
  | indent, [] => (0, indent, [])
  | indent, outer :: rest =>
    if column < indent then
      let (count, indent, left) := blocksToClose column outer rest
      (count + 1, indent, left)
    else (0, indent, outer :: rest)

/-- End the block collections that are indented further than a column. -/
def closeBlocks (lexer : Lexer) (column : Int) : Lexer :=
  if lexer.inBrackets then lexer
  else
    let (count, indent, outer) := blocksToClose column lexer.indent lexer.outerIndents
    { lexer with
      indent := indent
      outerIndents := outer
      tokens := lexer.tokens ++ Array.replicate count Token.blockEnd }

/-!
## The tokens one by one
-/

/-- Move to the next token, over padding, comments and line ends. A tab is no padding where a block
key may begin. -/
def skipToToken : Nat → Lexer → Lexer
  | 0, lexer => lexer
  | steps + 1, lexer =>
    let cursor := lexer.cursor
    let cursor :=
      if cursor.column = 0 ∧ cursor.peek = some '\ufeff' then cursor.advance 1 else cursor
    let tabs := lexer.inBrackets || !lexer.keyAllowed
    let cursor := (cursor.skipWhile fun c => c = ' ' || (tabs && c = '\t')).skipComment
    match cursor.lineEnd? with
    | some (_, next) =>
      skipToToken steps
        { lexer with cursor := next, keyAllowed := lexer.keyAllowed || !lexer.inBrackets }
    | none => { lexer with cursor := cursor }

/-- Read the start or the end of a document. -/
def documentMark (lexer : Lexer) (token : Token) : Option Lexer := do
  let lexer ← (lexer.closeBlocks (-1)).dropPlace
  some (((lexer.allowKey false).advance 3).emit token)

/-- Read a directive. -/
def directiveLine (lexer : Lexer) : Option Lexer := do
  let lexer ← (lexer.closeBlocks (-1)).dropPlace
  let (token, cursor) ← directive lexer.cursor
  some ({ lexer with cursor := cursor, keyAllowed := false }.emit token)

/-- Read an opening bracket. -/
def openBracket (lexer : Lexer) (token : Token) : Option Lexer := do
  let lexer ← lexer.keepPlace
  let inner :=
    { lexer with
      place := none, outerPlaces := lexer.place :: lexer.outerPlaces, keyAllowed := true }
  some ((inner.advance 1).emit token)

/-- Read a closing bracket. -/
def closeBracket (lexer : Lexer) (token : Token) : Option Lexer := do
  let lexer ← lexer.dropPlace
  let outer :=
    match lexer.outerPlaces with
    | place :: rest => { lexer with place := place, outerPlaces := rest }
    | [] => lexer
  some (((outer.allowKey false).advance 1).emit token)

/-- Read a comma. -/
def comma (lexer : Lexer) : Option Lexer := do
  let lexer ← lexer.dropPlace
  some (((lexer.allowKey true).advance 1).emit .comma)

/-- Begin a block collection for a mark at the cursor, which must be allowed here. Inside brackets
there is nothing to begin. -/
def openForMark (lexer : Lexer) (token : Token) : Option Lexer :=
  if lexer.inBrackets then some lexer
  else if lexer.keyAllowed then
    some (lexer.openBlock lexer.cursor.column lexer.tokens.size token)
  else none

/-- Read the dash of an item. -/
def itemMark (lexer : Lexer) : Option Lexer := do
  let lexer ← lexer.openForMark .blockSequenceStart
  let lexer ← lexer.dropPlace
  some (((lexer.allowKey true).advance 1).emit .item)

/-- Read the question mark of a key. -/
def keyMark (lexer : Lexer) : Option Lexer := do
  let lexer ← lexer.openForMark .blockMappingStart
  let lexer ← lexer.dropPlace
  some (((lexer.allowKey (!lexer.inBrackets)).advance 1).emit .key)

/-- Read the colon of a value. The token of its key is added where the key began. -/
def valueMark (lexer : Lexer) : Option Lexer := do
  let lexer ←
    match lexer.place with
    | some place =>
      let lexer := lexer.emitAt place.position .key
      let lexer := lexer.openBlock place.column place.position .blockMappingStart
      some { lexer with place := none, keyAllowed := false }
    | none => do
      let lexer ← lexer.openForMark .blockMappingStart
      some (lexer.allowKey (!lexer.inBrackets))
  some ((lexer.advance 1).emit .value)

/-- Read an alias or an anchor. -/
def name (lexer : Lexer) (token : String → Token) : Option Lexer := do
  let lexer ← lexer.keepPlace
  let (name, cursor) ← anchorName (lexer.cursor.advance 1)
  some ({ lexer with cursor := cursor, keyAllowed := false }.emit (token name))

/-- Read a tag. -/
def tag (lexer : Lexer) : Option Lexer := do
  let lexer ← lexer.keepPlace
  let (tag, cursor) ← writtenTag lexer.inBrackets lexer.cursor
  some ({ lexer with cursor := cursor, keyAllowed := false }.emit (.tag tag))

/-- Read a block scalar. -/
def block (lexer : Lexer) (literal : Bool) : Option Lexer := do
  let lexer ← lexer.dropPlace
  let (text, cursor) ← blockScalar literal lexer.indent (lexer.cursor.advance 1)
  let style := if literal then ScalarStyle.literal else .quoted
  let after := { lexer with cursor := cursor, keyAllowed := true }
  some (after.emit (.scalar (String.ofList text) style))

/-- Read a quoted scalar. -/
def quoted (lexer : Lexer) (quote : Quote) : Option Lexer := do
  let lexer ← lexer.keepPlace
  let cursor := lexer.cursor.advance 1
  let (text, cursor) ← quotedScalar quote (cursor.rest.length + 1) [] cursor
  some
    ({ lexer with cursor := cursor, keyAllowed := false }.emit
      (.scalar (String.ofList text) .quoted))

/-- Read an unquoted scalar. -/
def plain (lexer : Lexer) : Option Lexer := do
  let lexer ← lexer.keepPlace
  let cursor := lexer.cursor
  let (scalar, cursor) ←
    plainScalar lexer.inBrackets (lexer.indent + 1).toNat (cursor.rest.length + 1) [] {} cursor
  some
    ({ lexer with cursor := cursor, keyAllowed := scalar.endsLine }.emit
      (.scalar (String.ofList scalar.text) .plain))

/-- An unquoted scalar may begin with the character, given the one behind it. -/
def beginsPlain (inBrackets : Bool) (c : Char) (next : Option Char) : Bool :=
  if c = '-' then !next.any isPadding
  else if c = '?' || c = ':' then !inBrackets && !endsWord next
  else
    !(endsWord (some c) || isBracketSign c ||
      ['#', '&', '*', '!', '|', '>', '\'', '"', '%', '@', '\x60'].contains c)

/-- Read the token at the cursor, which is not at the end. -/
def token (lexer : Lexer) (c : Char) : Option Lexer :=
  let cursor := lexer.cursor
  let next := cursor.ahead 1
  let isMark := lexer.inBrackets || endsWord next
  if cursor.column = 0 ∧ c = '%' then lexer.directiveLine
  else if cursor.atMark '-' then lexer.documentMark .documentStart
  else if cursor.atMark '.' then lexer.documentMark .documentEnd
  else
    match c with
    | '[' => lexer.openBracket .sequenceStart
    | '\x7b' => lexer.openBracket .mappingStart
    | ']' => lexer.closeBracket .sequenceEnd
    | '\x7d' => lexer.closeBracket .mappingEnd
    | ',' => lexer.comma
    | '*' => lexer.name .alias
    | '&' => lexer.name .anchor
    | '!' => lexer.tag
    | '\'' => lexer.quoted .single
    | '"' => lexer.quoted .double
    | c =>
      if c = '-' ∧ endsWord next then lexer.itemMark
      else if c = '?' ∧ isMark then lexer.keyMark
      else if c = ':' ∧ isMark then lexer.valueMark
      else if c = '|' ∧ ¬lexer.inBrackets then lexer.block true
      else if c = '>' ∧ ¬lexer.inBrackets then lexer.block false
      else if beginsPlain lexer.inBrackets c next then lexer.plain
      else none

/-- Read all tokens. -/
def run : Nat → Lexer → Option (List Token)
  | 0, _ => none
  | steps + 1, lexer => do
    let lexer := skipToToken (lexer.cursor.rest.length + 1) lexer
    let lexer ← lexer.agePlaces
    let lexer := lexer.closeBlocks lexer.cursor.column
    match lexer.cursor.peek with
    | none => do
      let lexer ← (lexer.closeBlocks (-1)).dropPlace
      some lexer.tokens.toList
    | some c => run steps (← lexer.token c)

end Lexer

/-- The tokens of a document text, if the text has no fault. -/
def tokens? (text : String) : Option (List Token) :=
  let text := text.toList
  if text.all isAllowed then Lexer.run (text.length + 1) { cursor := { rest := text } } else none

end Document

end Intake
