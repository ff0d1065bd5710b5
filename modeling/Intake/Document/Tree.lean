import Intake.Document.Token.Lexer

/-!
# The tree of a document

Collections nest and scalars are leaves; an alias is a leaf too, which stands for the node that took
the anchor's number last. Places where a node may be left out hold an empty scalar.
-/

namespace Intake

namespace Document

/-- A document as it is written. -/
inductive Tree where
  | scalar (text : String) (style : ScalarStyle) (tag : Option String)
  | sequence (items : List Tree)
  | mapping (entries : List (Tree × Tree))
  | alias (number : Nat)

namespace Tree

instance : Inhabited Tree := ⟨scalar "" .plain none⟩

/-- The node that stands where there is none. -/
def nothing : Tree := default

end Tree

/-- What is known while a tree is built. -/
structure Builder where
  /-- The tokens still to be read. -/
  tokens : List Token
  /-- What the handles of tags stand for. -/
  handles : List (String × String)
  /-- The number of each anchor name. -/
  numbers : List (String × Nat) := []
  /-- For each number the nodes that took it, as places in the order of their beginnings, the last
  first. -/
  places : List (Nat × Nat) := []
  /-- The nodes by place. -/
  nodes : List (Nat × Tree) := []

/-- A step of building, which may fail. -/
abbrev Building := StateT Builder Option

namespace Building

/-- The next token. -/
def peek : Building (Option Token) := do return (← get).tokens.head?

/-- Take the next token. -/
def take : Building Unit := modify fun builder => { builder with tokens := builder.tokens.tail }

/-- Take the next token if it is a certain one. -/
def takes (token : Token) : Building Bool := do
  if (← peek) = some token then
    take
    return true
  return false

/-- The next token is one of several. -/
def nextIsOneOf (tokens : List Token) : Building Bool := do
  match ← peek with
  | some token => return tokens.contains token
  | none => return false

/-- A node with an anchor begins: its place. A name that is met for the first time gets the number
of names before it; a name that is met again gets the number of all names. -/
def beginAnchor (name : String) : Building Nat := do
  let builder ← get
  let number := builder.numbers.length
  let place := builder.places.length
  set
    { builder with
      numbers := (name, number) :: builder.numbers.filter fun entry => entry.1 != name
      places := (number, place) :: builder.places }
  return place

/-- A node with an anchor is complete. -/
def endAnchor (place : Nat) (node : Tree) : Building Unit :=
  modify fun builder => { builder with nodes := (place, node) :: builder.nodes }

/-- The full form of a tag. -/
def fullTag (tag : WrittenTag) : Building String := do
  if tag.handle = "" then return tag.rest
  match (← get).handles.lookup tag.handle with
  | some lead => return lead ++ tag.rest
  | none => failure

/-- What may stand before a node. -/
structure Properties where
  anchor : Option String := none
  tag : Option String := none

/-- There are properties. -/
def Properties.isPresent (properties : Properties) : Bool :=
  properties.anchor.isSome || properties.tag.isSome

/-- Read an anchor, if there is one. -/
def anchor : Building (Option String) := do
  match ← peek with
  | some (.anchor name) =>
    take
    return some name
  | _ => return none

/-- Read a tag, if there is one. -/
def tag : Building (Option WrittenTag) := do
  match ← peek with
  | some (.tag tag) =>
    take
    return some tag
  | _ => return none

/-- Read an anchor and a tag in either order. -/
def properties : Building Properties := do
  let first ← anchor
  let tag ← tag
  let anchor ← if first.isSome || tag.isNone then pure first else anchor
  return { anchor := anchor, tag := ← tag.mapM fullTag }

/-- The scalar of a token with the tag before it. The tag `!` leaves a scalar as it is. -/
def scalar (text : String) (style : ScalarStyle) (tag : Option String) : Tree :=
  .scalar text style (if tag = some "!" then none else tag)

/-- The tokens before which the value of a block mapping is left out. -/
def mappingStops : List Token := [.key, .value, .blockEnd]

mutual

/-- Build a node. Block collections begin only in `block` context; `loose` allows a sequence that is
not indented further than the mapping around it. -/
def node (block loose : Bool) : Nat → Building Tree
  | 0 => failure
  | steps + 1 => do
    match ← peek with
    | some (.alias name) =>
      take
      match (← get).numbers.lookup name with
      | some number => return .alias number
      | none => failure
    | _ =>
      let properties ← properties
      match properties.anchor with
      | some name =>
        let place ← beginAnchor name
        let tree ← content block loose properties steps
        endAnchor place tree
        return tree
      | none => content block loose properties steps

/-- Build what follows the properties of a node. -/
def content (block loose : Bool) (properties : Properties) : Nat → Building Tree
  | 0 => failure
  | steps + 1 => do
    match ← peek with
    | some (.scalar text style) =>
      take
      return scalar text style properties.tag
    | some .sequenceStart =>
      take
      return .sequence (← bracketItems true steps)
    | some .mappingStart =>
      take
      return .mapping (← bracketEntries true steps)
    | some token =>
      if loose && token = .item then return .sequence (← looseItems steps)
      else if block && token = .blockSequenceStart then
        take
        return .sequence (← blockItems steps)
      else if block && token = .blockMappingStart then
        take
        return .mapping (← blockEntries steps)
      else if properties.isPresent then return .scalar "" .plain properties.tag
      else failure
    | none => if properties.isPresent then return .scalar "" .plain properties.tag else failure

/-- Build a node in block context, unless one of some tokens shows that there is none. -/
def blockNodeUnless (stops : List Token) (loose : Bool) : Nat → Building Tree
  | 0 => failure
  | steps + 1 => do
    if ← nextIsOneOf stops then return .nothing
    node true loose steps

/-- Build a node inside brackets, unless one of some tokens shows that there is none. -/
def bracketNodeUnless (stops : List Token) : Nat → Building Tree
  | 0 => failure
  | steps + 1 => do
    if ← nextIsOneOf stops then return .nothing
    node false false steps

/-- Build the items of a block sequence. -/
def blockItems : Nat → Building (List Tree)
  | 0 => failure
  | steps + 1 => do
    if ← takes .item then
      let first ← blockNodeUnless [.item, .blockEnd] false steps
      return first :: (← blockItems steps)
    if ← takes .blockEnd then return []
    failure

/-- Build the items of a sequence that has no indentation of its own. -/
def looseItems : Nat → Building (List Tree)
  | 0 => failure
  | steps + 1 => do
    if ← takes .item then
      let first ← blockNodeUnless (.item :: mappingStops) false steps
      return first :: (← looseItems steps)
    return []

/-- Build the entries of a block mapping. -/
def blockEntries : Nat → Building (List (Tree × Tree))
  | 0 => failure
  | steps + 1 => do
    if ← takes .key then
      let key ← blockNodeUnless mappingStops true steps
      let value ← if ← takes .value then blockNodeUnless mappingStops true steps else pure .nothing
      return (key, value) :: (← blockEntries steps)
    if ← takes .blockEnd then return []
    failure

/-- Build the items of a sequence in brackets. An entry with a key is a mapping of its own. -/
def bracketItems (first : Bool) : Nat → Building (List Tree)
  | 0 => failure
  | steps + 1 => do
    if ← takes .sequenceEnd then return []
    unless first || (← takes .comma) do failure
    if ← takes .sequenceEnd then return []
    let item ← if ← takes .key then bracketPair steps else node false false steps
    return item :: (← bracketItems false steps)

/-- Build the mapping of a single entry inside a sequence in brackets. A mark in place of the key is
passed over. -/
def bracketPair : Nat → Building Tree
  | 0 => failure
  | steps + 1 => do
    let stops : List Token := [.comma, .sequenceEnd]
    let key ←
      if ← nextIsOneOf (.value :: stops) then do
        take
        pure .nothing
      else node false false steps
    let value ← if ← takes .value then bracketNodeUnless stops steps else pure .nothing
    return .mapping [(key, value)]

/-- Build the entries of a mapping in brackets. -/
def bracketEntries (first : Bool) : Nat → Building (List (Tree × Tree))
  | 0 => failure
  | steps + 1 => do
    if ← takes .mappingEnd then return []
    unless first || (← takes .comma) do failure
    if ← takes .mappingEnd then return []
    let stops : List Token := [.comma, .mappingEnd]
    if ← takes .key then
      let key ← bracketNodeUnless (.value :: stops) steps
      let value ← if ← takes .value then bracketNodeUnless stops steps else pure .nothing
      return (key, value) :: (← bracketEntries false steps)
    let key ← node false false steps
    return (key, .nothing) :: (← bracketEntries false steps)

end

/-!
## Documents
-/

/-- The handles that need no directive. -/
def givenHandles : List (String × String) := [("!", "!"), ("!!", "tag:yaml.org,2002:")]

/-- Read directives. A version is given once at most and must be 1.1 or 1.2; a handle is given once
at most. -/
def directives : Nat → Bool → Building Unit
  | 0, _ => failure
  | steps + 1, versioned => do
    match ← peek with
    | some (.version major minor) =>
      guard (¬versioned ∧ major = 1 ∧ (minor = 1 ∨ minor = 2))
      take
      directives steps true
    | some (.shorthand handle lead) =>
      let builder ← get
      guard (builder.handles.lookup handle).isNone
      set { builder with handles := builder.handles ++ [(handle, lead)] }
      take
      directives steps versioned
    | _ => pure ()

/-- Move over the marks of a document's end; nothing may follow them. -/
def finish : List Token → Option Unit
  | [] => some ()
  | .documentEnd :: rest => finish rest
  | _ => none

/-- Build the only document. A document that holds nothing is an empty scalar. -/
def document (steps : Nat) : Building Tree := do
  match ← peek with
  | none => return .nothing
  | some first =>
    let announced := match first with
      | .version .. | .shorthand .. | .documentStart => true
      | _ => false
    directives steps false
    modify fun builder => { builder with handles := builder.handles ++ givenHandles }
    if announced then
      unless ← takes .documentStart do failure
      match ← peek with
      | none
      | some .documentStart
      | some .documentEnd
      | some (.version ..)
      | some (.shorthand ..) =>
        return .nothing
      | _ => node true false steps
    else node true false steps

end Building

/-- A tree with the nodes that its aliases stand for. -/
structure Anchored where
  root : Tree
  /-- For each number the places of nodes, the last first. -/
  places : List (Nat × Nat)
  /-- The nodes by place. -/
  nodes : List (Nat × Tree)

/-- The tree of a document that consists of some tokens. -/
def Anchored.ofTokens? (tokens : List Token) : Option Anchored := do
  let (root, builder) ←
    (Building.document (4 * tokens.length + 4)).run { tokens := tokens, handles := [] }
  Building.finish builder.tokens
  some { root := root, places := builder.places, nodes := builder.nodes }

/-- The node that an alias stands for. -/
def Anchored.target? (tree : Anchored) (number : Nat) : Option Tree :=
  (tree.places.lookup number).bind fun place => tree.nodes.lookup place

/-- The node for a tree with its aliases replaced by what they stand for. A node inside itself could
be replaced forever, so nodes deeper than `depth` are left out. -/
def Anchored.node (tree : Anchored) : Nat → Tree → Node
  | 0, _ => .sequence []
  | depth + 1, part =>
    match part with
    | .scalar text style tag => .scalar text style tag
    | .sequence items => .sequence (items.map (tree.node depth))
    | .mapping entries =>
      .mapping (entries.map fun entry => (tree.node depth entry.1, tree.node depth entry.2))
    | .alias number =>
      match tree.target? number with
      | some target => tree.node depth target
      | none => .sequence []

/-- No more levels of a document than this are ever looked at: settings are six levels deep, and
each may stand behind an alias. -/
def depthInUse : Nat := 12

end Document

/-- The root node of a text that is a single document without faults. -/
def Node.ofText? (text : String) : Option Node := do
  let tokens ← Document.tokens? text
  let tree ← Document.Anchored.ofTokens? tokens
  some (tree.node Document.depthInUse tree.root)

end Intake
