import Intake.Json.Basic

/-!
# Document nodes

The tree of a configuration document before anything is known about its meaning: scalars are texts,
and what they are read as depends on the setting they are given for. A JSON value is such a tree
too.
-/

namespace Intake

/-- How the text of a scalar was written. -/
inductive ScalarStyle where
  /-- Without quotes. -/
  | plain
  /-- As a block that keeps its line breaks. -/
  | literal
  /-- In quotes, or as a folded block. -/
  | quoted
  deriving DecidableEq, Repr

/-- A node of a document. -/
inductive Node where
  | scalar (text : String) (style : ScalarStyle) (tag : Option String)
  | sequence (items : List Node)
  | mapping (entries : List (Node × Node))

/-- Why a node does not fit what it is given for. -/
inductive Misfit where
  /-- A field that must be there is missing. -/
  | missing (field : String)
  /-- A word is none of those expected. -/
  | unknownWord (word : String) (expected : List String)
  /-- A field is given twice. -/
  | duplicate (field : String)
  /-- A node is of the wrong kind, or a text cannot be read. -/
  | shape
  deriving DecidableEq, Repr

/-- The description of a misfit. -/
def Misfit.message : Misfit → String
  | missing field => "missing field \x60" ++ field ++ "\x60"
  | unknownWord word expected =>
    "unknown variant \x60" ++ word ++ "\x60, expected one of " ++
      ", ".intercalate (expected.map fun name => "\x60" ++ name ++ "\x60")
  | duplicate field => "duplicate field \x60" ++ field ++ "\x60"
  | shape => "invalid type"

namespace Node

/-- The plain words that stand for nothing. -/
def isNullWord (text : String) : Bool :=
  text = "null" || text = "Null" || text = "NULL" || text = "~"

/-- The tag that marks a null. -/
def nullTag : String := "tag:yaml.org,2002:null"

/-- The tag that marks a boolean. -/
def boolTag : String := "tag:yaml.org,2002:bool"

/-- The text of a scalar. -/
def text : Node → Except Misfit String
  | scalar text _ _ => .ok text
  | _ => .error .shape

/-- A scalar that is empty and has no quotes. -/
def isEmptyPlain : Node → Bool
  | scalar text .plain _ => text = ""
  | _ => false

/-- A node that may be null: an unquoted scalar that is empty or a null word. -/
def optional {α : Type} (decode : Node → Except Misfit α) (node : Node) :
    Except Misfit (Option α) :=
  match node with
  | scalar text .plain none =>
    if text = "" ∨ isNullWord text then .ok none else some <$> decode node
  | scalar text .plain (some tag) =>
    if tag = nullTag then if isNullWord text then .ok none else .error .shape
    else some <$> decode node
  | _ => some <$> decode node

/-- A boolean: an unquoted word, or a literal block with the tag for booleans. -/
def bool (node : Node) : Except Misfit Bool :=
  let word := fun text =>
    if text = "true" ∨ text = "True" ∨ text = "TRUE" then .ok true
    else if text = "false" ∨ text = "False" ∨ text = "FALSE" then .ok false
    else .error .shape
  match node with
  | scalar text .plain _ => word text
  | scalar text .literal (some tag) => if tag = boolTag then word text else .error .shape
  | _ => .error .shape

/-- The items of a sequence; an empty scalar counts as one without items. -/
def items (node : Node) : Except Misfit (List Node) :=
  match node with
  | sequence items => .ok items
  | node => if node.isEmptyPlain then .ok [] else .error .shape

/-- The items of a sequence, decoded in order. -/
def list {α : Type} (decode : Node → Except Misfit α) (node : Node) : Except Misfit (List α) := do
  (← node.items).mapM decode

/-- One of several words. A local tag on nothing is a word too. -/
def word {α : Type} (decode : String → Option α) (expected : List String) (node : Node) :
    Except Misfit α :=
  let read := fun name =>
    match decode name with
    | some value => .ok value
    | none => .error (.unknownWord name expected)
  match node with
  | scalar text style (some tag) =>
    match tag.toList with
    | '!' :: name =>
      if name = [] then read text
      else if style = .plain ∧ (text = "" ∨ isNullWord text) then read (String.ofList name)
      else .error .shape
    | _ => read text
  | scalar text _ none => read text
  | _ => .error .shape

/-- The entries of a mapping by the text of their keys; an empty scalar counts as a mapping without
entries. A field among `known` must not occur twice. -/
def fields (known : List String) (node : Node) : Except Misfit (List (String × Node)) := do
  let entries ←
    match node with
    | mapping entries => .ok entries
    | node => if node.isEmptyPlain then .ok [] else .error .shape
  let fields ← entries.mapM fun entry => do pure ((← entry.1.text), entry.2)
  match known.find? fun name => 1 < fields.countP fun field => field.1 = name with
  | some name => .error (.duplicate name)
  | none => .ok fields

/-- The value of a field that may be left out. -/
def field? {α : Type} (decode : Node → Except Misfit α) (fields : List (String × Node))
    (name : String) : Except Misfit (Option α) :=
  match fields.lookup name with
  | some node => some <$> decode node
  | none => .ok none

/-- A value that must not have been left out. -/
def required {α : Type} (name : String) : Option α → Except Misfit α
  | some value => .ok value
  | none => .error (.missing name)

end Node

mutual

/-- The document tree of a JSON value. -/
def Json.toNode : Json → Node
  | .null => .scalar "null" .plain none
  | .bool value => .scalar (if value then "true" else "false") .plain none
  | .number value => .scalar value.written .plain none
  | .string value => .scalar value .quoted none
  | .array items => .sequence (itemNodes items)
  | .object members => .mapping (memberNodes members)

/-- The document trees of array items. -/
def itemNodes : List Json → List Node
  | [] => []
  | item :: rest => item.toNode :: itemNodes rest

/-- The document trees of object members. -/
def memberNodes : List (String × Json) → List (Node × Node)
  | [] => []
  | (name, value) :: rest => (.scalar name .quoted none, value.toNode) :: memberNodes rest

end

end Intake
