import DatasetHosting.Document.Yaml.Lexer

/-!
# Document/Yaml/Node — from tokens to a tree

A document is a tree of scalars, sequences, mappings and aliases. Anchors give numbers to nodes: a new
anchor gets as its number how many different names had been used before it, and a number belongs to the
last node that got it. An alias keeps the number that its name had at its place, so a node may contain an
alias of itself.
-/

namespace DatasetHosting.Yaml

/-- A node of a document. Its tag is a whole tag. -/
inductive Node where
  /-- What an empty text holds in place of a document. -/
  | nothing
  | scalar (style : Style) (tag : Option Tag) (text : String)
  | sequence (tag : Option Tag) (items : List Node)
  | mapping (tag : Option Tag) (entries : List (Node × Node))
  | alias (number : Nat)
  deriving Repr, Inhabited

/-- The node that stands where none is written. -/
def Node.empty : Node := .scalar .plain none ""

/-! ## Parser state -/

/-- A node with an anchor. -/
structure Anchored where
  /-- The anchor's number. -/
  number : Nat
  /-- How many anchors stand before it. -/
  place : Nat
  /-- The node. -/
  node : Node

/-- What the parser keeps. -/
structure ParseState where
  /-- The tokens left. -/
  tokens : List Token
  /-- The shorthands of tags. -/
  shorthands : List (String × Tag) := []
  /-- The numbers of the anchors' names. -/
  numbers : List (String × Nat) := []
  /-- How many anchors have been met. -/
  anchors : Nat := 0
  /-- The nodes that have an anchor. -/
  anchored : List Anchored := []

/-- A reader of tokens. -/
abbrev Parser (α : Type) := StateT ParseState Option α

namespace Parser

/-- The next token. -/
def peek : Parser (Option Token) := do
  return (← get).tokens.head?

/-- Passes over a token. -/
def skip : Parser Unit :=
  modify fun state => { state with tokens := state.tokens.drop 1 }

/-- Passes over the given token, if it is the next one, and tells whether it was. -/
def skipIf (token : Token) : Parser Bool := do
  if (← peek) == some token then
    skip
    return true
  return false

/-- Passes over the given token, which must be the next one. -/
def expect (token : Token) : Parser Unit := do
  if !(← skipIf token) then failure

/-- Whether the next token is one of those given. -/
def nextIsIn (tokens : List Token) : Parser Bool := do
  return (← peek).any tokens.contains

/-! ## Properties -/

/-- The number of a name, as it stands. -/
def numberOf (name : String) : Parser Nat := do
  match (← get).numbers.lookup name with
  | some number => return number
  | none => failure

/-- Gives a number to the name of an anchor: the number, and the anchor's place. -/
def newAnchor (name : String) : Parser (Nat × Nat) := do
  let state ← get
  let number := state.numbers.length
  let others := state.numbers.filter (·.1 != name)
  set { state with numbers := (name, number) :: others, anchors := state.anchors + 1 }
  return (number, state.anchors)

/-- The whole tag that a shorthand and a suffix write. -/
def wholeTag (handle : String) (suffix : Tag) : Parser Tag := do
  if handle.isEmpty then return suffix
  match (← get).shorthands.lookup handle with
  | some expansion => return expansion ++ suffix
  | none => failure

/-- The properties of a node: an anchor and a tag, in either order. -/
structure Properties where
  /-- The name of the anchor. -/
  anchor : Option String := none
  /-- The tag. -/
  tag : Option Tag := none

/-- Reads an anchor, if there is one. -/
def anchor? : Parser (Option String) := do
  match ← peek with
  | some (.anchor name) => skip; return some name
  | _ => return none

/-- Reads a tag, if there is one. -/
def tag? : Parser (Option Tag) := do
  match ← peek with
  | some (.tag handle suffix) => skip; return some (← wholeTag handle suffix)
  | _ => return none

/-- Reads the properties of a node. -/
def properties : Parser Properties := do
  match ← anchor? with
  | some name => return ⟨some name, ← tag?⟩
  | none =>
    let tag ← tag?
    if tag.isSome then return ⟨← anchor?, tag⟩
    return {}

/-- Keeps a node with its anchor. -/
def keep (anchor : Option (Nat × Nat)) (node : Node) : Parser Node := do
  match anchor with
  | some (number, place) =>
    modify fun state => { state with anchored := ⟨number, place, node⟩ :: state.anchored }
  | none => pure ()
  return node

/-! ## Nodes -/

mutual

/-- A node, in so many steps. In a block it may be a block collection, and where `bare` says so, a
sequence that is not indented more than the keys around it. -/
def node (inBlock bare : Bool) : Nat → Parser Node
  | 0 => failure
  | steps + 1 => do
    if let some (.alias name) ← peek then
      skip
      return .alias (← numberOf name)
    let found ← properties
    let anchor ← found.anchor.mapM newAnchor
    match ← peek with
    | some (.scalar style text) =>
      skip
      keep anchor (.scalar style found.tag text)
    | some .flowSequenceStart =>
      skip
      keep anchor (.sequence found.tag (← flowItems true steps))
    | some .flowMappingStart =>
      skip
      keep anchor (.mapping found.tag (← flowEntries true steps))
    | next =>
      if bare && next == some .blockEntry then
        keep anchor (.sequence found.tag (← bareItems steps))
      else if inBlock && next == some .blockSequenceStart then
        skip
        keep anchor (.sequence found.tag (← blockItems steps))
      else if inBlock && next == some .blockMappingStart then
        skip
        keep anchor (.mapping found.tag (← blockEntries steps))
      else if found.anchor.isSome || found.tag.isSome then
        keep anchor (.scalar .plain found.tag "")
      else failure

/-- A node of a block, or an empty one before the given tokens. -/
def blockNode (bare : Bool) (ends : List Token) : Nat → Parser Node
  | 0 => failure
  | steps + 1 => do
    if ← nextIsIn ends then return .empty
    node true bare steps

/-- The items of a block sequence, and its end. -/
def blockItems : Nat → Parser (List Node)
  | 0 => failure
  | steps + 1 => do
    if ← skipIf .blockEnd then return []
    expect .blockEntry
    let item ← blockNode false [.blockEntry, .blockEnd] steps
    return item :: (← blockItems steps)

/-- The items of a block sequence that has no end of its own. -/
def bareItems : Nat → Parser (List Node)
  | 0 => failure
  | steps + 1 => do
    if !(← skipIf .blockEntry) then return []
    let item ← blockNode false [.blockEntry, .key, .value, .blockEnd] steps
    return item :: (← bareItems steps)

/-- The entries of a block mapping, and its end. -/
def blockEntries : Nat → Parser (List (Node × Node))
  | 0 => failure
  | steps + 1 => do
    if ← skipIf .blockEnd then return []
    expect .key
    let key ← blockNode true [.key, .value, .blockEnd] steps
    let value ←
      if ← skipIf .value then blockNode true [.key, .value, .blockEnd] steps else pure .empty
    return (key, value) :: (← blockEntries steps)

/-- A node within brackets, or an empty one before the given tokens. -/
def flowNode (ends : List Token) : Nat → Parser Node
  | 0 => failure
  | steps + 1 => do
    if ← nextIsIn ends then return .empty
    node false false steps

/-- The items of a flow sequence, and its end. A key among them starts a mapping of one entry; a key that
is empty takes the token behind it along. -/
def flowItems (first : Bool) : Nat → Parser (List Node)
  | 0 => failure
  | steps + 1 => do
    if ← skipIf .flowSequenceEnd then return []
    if !first then
      expect .flowEntry
      if ← skipIf .flowSequenceEnd then return []
    let item ←
      if ← skipIf .key then
        let isEmpty ← nextIsIn [.value, .flowEntry, .flowSequenceEnd]
        let key ← flowNode [.value, .flowEntry, .flowSequenceEnd] steps
        if isEmpty then skip
        let value ←
          if ← skipIf .value then flowNode [.flowEntry, .flowSequenceEnd] steps else pure .empty
        pure (Node.mapping none [(key, value)])
      else node false false steps
    return item :: (← flowItems false steps)

/-- The entries of a flow mapping, and its end. -/
def flowEntries (first : Bool) : Nat → Parser (List (Node × Node))
  | 0 => failure
  | steps + 1 => do
    if ← skipIf .flowMappingEnd then return []
    if !first then
      expect .flowEntry
      if ← skipIf .flowMappingEnd then return []
    let entry ←
      if ← skipIf .key then
        let key ← flowNode [.value, .flowEntry, .flowMappingEnd] steps
        let value ←
          if ← skipIf .value then flowNode [.flowEntry, .flowMappingEnd] steps else pure .empty
        pure (key, value)
      else
        pure (← node false false steps, Node.empty)
    return entry :: (← flowEntries false steps)

end

/-! ## Documents -/

/-- The directives in front of a document: at most one version, which must be 1.1 or 1.2, and a shorthand
at most once each. -/
def directives (versionSeen : Bool) : Nat → Parser Unit
  | 0 => failure
  | steps + 1 => do
    match ← peek with
    | some (.version major minor) =>
      if versionSeen || major != 1 || !(minor == 1 || minor == 2) then failure
      skip
      directives true steps
    | some (.tagShorthand handle expansion) =>
      if ((← get).shorthands.lookup handle).isSome then failure
      modify fun state => { state with shorthands := (handle, expansion) :: state.shorthands }
      skip
      directives versionSeen steps
    | _ => return ()

/-- The shorthands that need no directive. -/
def standardShorthands : List (String × Tag) :=
  [("!", Tag.bang), ("!!", Tag.ofAscii "tag:yaml.org,2002:")]

/-- Adds the shorthands that need no directive behind those that had one. -/
def addStandardShorthands : Parser Unit :=
  modify fun state => { state with shorthands := state.shorthands ++ standardShorthands }

/-- Passes over marks of the document's end. -/
def documentEnds : Nat → Parser Unit
  | 0 => failure
  | steps + 1 => do
    if ← skipIf .documentEnd then documentEnds steps

/-- **The only document of a text.** Its start may be marked, its end as well, and nothing follows. -/
def document (steps : Nat) : Parser Node := do
  if (← peek).isNone then return .nothing
  let marked := match ← peek with
    | some (.version ..) => true
    | some (.tagShorthand ..) => true
    | some .documentStart => true
    | _ => false
  if marked then
    directives false steps
    expect .documentStart
  addStandardShorthands
  let root ←
    if marked && ((← peek).isNone || (← peek) == some .documentStart ||
        (← peek) == some .documentEnd) then
      pure Node.empty
    else node true false steps
  documentEnds steps
  if (← peek).isSome then failure
  return root

end Parser

/-! ## Trees -/

mutual

/-- How many scalars and aliases a tree has, counting every collection as two. -/
def Node.weight : Node → Nat
  | .nothing => 1
  | .scalar .. => 1
  | .alias _ => 1
  | .sequence _ items => 2 + itemsWeight items
  | .mapping _ entries => 2 + entriesWeight entries

/-- The weight of several nodes. -/
def itemsWeight : List Node → Nat
  | [] => 0
  | item :: items => item.weight + itemsWeight items

/-- The weight of several entries. -/
def entriesWeight : List (Node × Node) → Nat
  | [] => 0
  | (key, value) :: entries => key.weight + value.weight + entriesWeight entries

end

/-- **A document**: its root and the nodes that aliases name. -/
structure Tree where
  /-- The root. -/
  root : Node
  /-- The nodes that have an anchor. -/
  anchored : List Anchored

/-- The node of an alias: the last of those that got the number. -/
def lookUp (anchored : List Anchored) (number : Nat) : Option Node :=
  let candidates := anchored.filter (·.number == number)
  let latest := candidates.foldl (fun place found => max place found.place) 0
  (candidates.find? (·.place == latest)).map Anchored.node

/-- **The tree that a YAML text writes.** Each token takes two steps at most. -/
def Tree.read? (text : String) : Option Tree := do
  let tokens ← tokens? (← place? text.toList)
  let (root, state) ← (Parser.document (4 * tokens.length + 8)).run { tokens := tokens }
  return ⟨root, state.anchored⟩

end DatasetHosting.Yaml
