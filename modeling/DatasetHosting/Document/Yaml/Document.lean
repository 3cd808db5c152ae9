import DatasetHosting.Document.Yaml.Plain

/-!
# Document/Yaml/Document — YAML values as documents

A text is any scalar, whatever it looks like; numbers and truth values are plain. A record is a mapping, a
list a sequence, and an empty plain scalar stands for either. A constant is a scalar with the constant's
name, or a tag of that name on nothing. In a value with a tag, scalars have the type that they look like.

Aliases can make a small text stand for a huge value. Every alias that a reader follows is counted, over
the whole text, and the number is bounded by the size of the text. What no reader asks for costs nothing.
-/

namespace DatasetHosting.Yaml

/-- The tags of the types that scalars may be given. -/
def typeTag (name : String) : Tag :=
  Tag.ofAscii ("tag:yaml.org,2002:" ++ name)

/-- The deepest nesting of sequences and mappings in a value with a tag. -/
def maxDepth : Nat := 128

/-- How often aliases may be followed, for each unit of the document's weight. -/
def aliasFactor : Nat := 100

/-- **Reading with a bound**: how many aliases may still be followed. -/
abbrev Bounded := StateT Nat Option

/-- **A value of a document**: a node among the nodes that aliases name. -/
structure Value where
  /-- The nodes that have an anchor. -/
  anchored : List Anchored
  /-- The node. -/
  node : Node

namespace Value

/-- Another node of the same document. -/
def child (value : Value) (node : Node) : Value :=
  { value with node := node }

/-- **The value itself, or the one that it is an alias of.** Following an alias counts. -/
def follow (value : Value) : Bounded Value := do
  match value.node with
  | .alias number =>
    match ← get with
    | 0 => failure
    | left + 1 =>
      set left
      return value.child (← lookUp value.anchored number)
  | _ => return value

/-! ## Scalars -/

/-- Whether the node is an empty plain scalar, or stands for an empty text. -/
def isVoid : Node → Bool
  | .nothing => true
  | .scalar .plain _ text => text.isEmpty
  | _ => false

/-- The text of a scalar. -/
def nodeText? : Node → Option String
  | .scalar _ _ text => some text
  | _ => none

/-- The text of a scalar that can be of the given type: a plain one, or a literal block with its tag. -/
def nodeTyped? (type : String) : Node → Option String
  | .scalar .plain _ text => some text
  | .scalar .literal (some tag) text => if tag = typeTag type then some text else none
  | _ => none

/-- Whether the node is null. A scalar with a tag is null only if it has the tag of null, which must not
stand on anything else that is plain. -/
def nodeIsNull? : Node → Option Bool
  | .nothing => some true
  | .scalar .plain (some tag) text =>
    if tag = typeTag "null" then if isNull text then some true else none else some false
  | .scalar .plain none text => some (text.isEmpty || isNull text)
  | _ => some false

/-- The name that a local tag gives, if the tag is one and its name is a text. -/
def localName? : Tag → Option String
  | [] => none
  | sign :: name =>
    if sign ≠ '!'.toUInt8 then none
    else if name.isEmpty then some "!"
    else String.fromUTF8? (ByteArray.mk name.toArray)

/-- The name of the constant that a node is. -/
def nodeConstant? : Node → Option String
  | .scalar style tag text =>
    match tag.bind localName? with
    | some name =>
      if style = .plain && (text.isEmpty || isNull text) then some name else none
    | none => some text
  | _ => none

/-! ## Answers -/

/-- The text of a scalar. -/
def text? (value : Value) : Bounded String := do
  nodeText? (← value.follow).node

/-- The truth value of a scalar. -/
def boolean? (value : Value) : Bounded Bool := do
  Yaml.boolean? (← nodeTyped? "bool" (← value.follow).node)

/-- The natural number of a scalar. -/
def natural? (value : Value) : Bounded Nat := do
  Yaml.natural? (← nodeTyped? "int" (← value.follow).node)

/-- The value, unless it is null. -/
def nullable? (value : Value) : Bounded (Option Value) := do
  let value ← value.follow
  return if ← nodeIsNull? value.node then none else some value

/-- The items of a sequence. -/
def list? (value : Value) : Bounded (List Value) := do
  match (← value.follow).node with
  | .sequence _ items => return items.map value.child
  | node => if isVoid node then return [] else failure

/-- The entries of a mapping. -/
def map? (value : Value) : Bounded (List (Value × Value)) := do
  match (← value.follow).node with
  | .mapping _ entries =>
    return entries.map fun (key, content) => (value.child key, value.child content)
  | node => if isVoid node then return [] else failure

/-- The fields of a mapping, whose keys must be texts. -/
def fields? (names : List String) (value : Value) : Bounded (Fields Value) := do
  let named ← (← value.map?).mapM fun (key, content) => return (← key.text?, content)
  Fields.ofEntries? names named

/-- The name of a constant. -/
def constant? (value : Value) : Bounded String := do
  nodeConstant? (← value.follow).node

/-! ## Data -/

/-- A scalar as data. A local tag is refused, and the tag of a type asks for that type. -/
def scalarData? (style : Style) (tag : Option Tag) (text : String) : Option Data :=
  match tag with
  | none => if style = .plain then plainData? text else some (.text text)
  | some tag =>
    if (localName? tag).isSome then none
    else if tag = typeTag "bool" then (Yaml.boolean? text).map .boolean
    else if tag = typeTag "int" then (integer128? text).bind integerData?
    else if tag = typeTag "float" then if isFloat text then some .fraction else none
    else if tag = typeTag "null" then if isNull text then some .null else none
    else some (.text text)

/-- Whether a collection of the tag may be data: a local tag is refused. -/
def isPlainTag (tag : Option Tag) : Bool :=
  (tag.bind localName?).isNone

/-- A value as data, with room for so many levels of nesting. -/
def data? : (room : Nat) → Value → Bounded Data
  | room, value => do
    match (← value.follow).node, room with
    | .scalar style tag text, _ => scalarData? style tag text
    | .sequence tag items, room + 1 =>
      if !isPlainTag tag then failure
      return .list (← items.mapM fun item => data? room (value.child item))
    | .mapping tag entries, room + 1 =>
      if !isPlainTag tag then failure
      return .record (← entries.mapM fun (key, content) => do
        return (← data? room (value.child key), ← data? room (value.child content)))
    | _, _ => failure

/-- The key and the content of an entry beside a tag, or the tag in the tag's own entry. -/
def besideTag (tag : String) (room : Nat) (key content : Value) : Bounded (String ⊕ Data × Data) := do
  let key ← data? room key
  if key.text? == some tag then return .inl (← content.text?)
  return .inr (key, ← data? room content)

/-- A value with its tag taken out. -/
def tagged? (tag : String) (above : Nat) (value : Value) : Bounded (String × Data) := do
  match (← value.follow).node, maxDepth - above with
  | .mapping nodeTag entries, room + 1 =>
    if !isPlainTag nodeTag then failure
    let found ← entries.mapM fun (key, content) =>
      besideTag tag room (value.child key) (value.child content)
    match found.filterMap Sum.getLeft? with
    | [name] => return (name, .record (found.filterMap Sum.getRight?))
    | _ => failure
  | .sequence nodeTag (first :: items), room + 1 =>
    if !isPlainTag nodeTag then failure
    let name ← (value.child first).text?
    return (name, .list (← items.mapM fun item => data? room (value.child item)))
  | _, _ => failure

instance : Document Bounded Value where
  text? := text?
  boolean? := boolean?
  natural? := natural?
  nullable? := nullable?
  list? := list?
  fields? := fields?
  map? := map?
  constant? := constant?
  tagged? := tagged?

end Value

/-- **What a reader finds in the document that a YAML text writes.** -/
def read? {α : Type} (text : String) (ofValue : Value → Bounded α) : Option α := do
  let tree ← Tree.read? text
  (ofValue ⟨tree.anchored, tree.root⟩).run' (aliasFactor * tree.root.weight)

end DatasetHosting.Yaml
