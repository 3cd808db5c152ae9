/-!
# Document/Basic — what a document offers to a reader

Catalogues and the other records come as documents in more than one notation. A reader of records asks a
document for a text, a number, its fields; the notation decides what counts as one. `Document` lists these
questions, so that each kind of record is read by one definition for all notations. The answers come in a
monad of the notation's own: it can refuse, and it may keep count of what reading has cost.

A value with a tag inside is read in two steps: its tag, and then the rest as plain `Data`, whose scalars
have a type of their own whatever is asked of them.
-/

namespace DatasetHosting

/-- **Plain data**: a document in which every scalar has its type. -/
inductive Data where
  | null
  | boolean (value : Bool)
  | natural (value : Nat)
  /-- An integer that is written with a minus sign; it may be zero. -/
  | negative (magnitude : Nat)
  /-- A number that is no integer of 64 bits. -/
  | fraction
  | text (value : String)
  | list (items : List Data)
  | record (entries : List (Data × Data))
  deriving Repr, Inhabited

/-- **The fields of a record**, by name. -/
structure Fields (α : Type) where
  /-- The fields that are there, no name twice. -/
  entries : List (String × α)
  /-- Whether the document names them, rather than giving them in order. -/
  named : Bool

namespace Fields

variable {m : Type → Type} [Monad m] [MonadLiftT Option m] {α β : Type}

/-- The fields among named entries. Entries of other names are passed over; a field given twice is an
error. -/
def ofEntries? (names : List String) (entries : List (String × α)) : Option (Fields α) :=
  let known := entries.filter fun entry => names.contains entry.1
  if (known.map Prod.fst).Nodup then some ⟨known, true⟩ else none

/-- The fields given in order. There may be fewer items than names, but not more. -/
def ofItems? (names : List String) (items : List α) : Option (Fields α) :=
  if items.length ≤ names.length then some ⟨names.zip items, false⟩ else none

/-- A field that must be there. -/
def required (fields : Fields α) (name : String) (read : α → m β) : m β := do
  read (← fields.entries.lookup name)

/-- A field that has a default. -/
def orDefault (fields : Fields α) (name : String) (default : β) (read : α → m β) : m β :=
  match fields.entries.lookup name with
  | some a => read a
  | none => return default

end Fields

/-- **What a notation answers** to the questions of a reader, unless it refuses. -/
class Document (m : outParam (Type → Type)) (α : Type) where
  /-- The document as a text. -/
  text? : α → m String
  /-- The document as a truth value. -/
  boolean? : α → m Bool
  /-- The document as a natural number. -/
  natural? : α → m Nat
  /-- The document as a value that may be missing: `none` if it is. -/
  nullable? : α → m (Option α)
  /-- The document as a list. -/
  list? : α → m (List α)
  /-- The document as a record with fields of the given names. -/
  fields? : List String → α → m (Fields α)
  /-- The document as a map: its keys and values in order. -/
  map? : α → m (List (α × α))
  /-- The document as a constant: the constant's name. -/
  constant? : α → m String
  /-- The document as a value whose tag is the field of the given name or the first item, below so many
  levels of nesting: the tag, and the rest as data. -/
  tagged? : String → Nat → α → m (String × Data)

namespace Document

variable {m : Type → Type} [Monad m] [MonadLiftT Option m] {α β : Type} [Document m α]

/-- A value that may be missing. -/
def readNullable (read : α → m β) (a : α) : m (Option β) := do
  match ← nullable? a with
  | none => return none
  | some present => return some (← read present)

/-- A list of values. -/
def readList (read : α → m β) (a : α) : m (List β) := do
  (← list? a).mapM read

/-- The number, if it is less than the bound. -/
def below? (bound n : Nat) : Option Nat :=
  if n < bound then some n else none

/-- A natural number of 32 bits. -/
def readUInt32 (a : α) : m UInt32 := do
  return UInt32.ofNat (← below? UInt32.size (← natural? a))

/-- A natural number of 64 bits. -/
def readUInt64 (a : α) : m UInt64 := do
  return UInt64.ofNat (← below? UInt64.size (← natural? a))

/-- One of the constants, by its name. -/
def readConstant (all : List β) (name : β → String) (a : α) : m β := do
  let found ← constant? a
  all.find? (name · == found)

end Document

/-- A field that may be missing. In a record given in order it may not. -/
def Fields.nullable {m : Type → Type} [Monad m] [MonadLiftT Option m] {α β : Type} [Document m α]
    (fields : Fields α) (name : String) (read : α → m β) : m (Option β) :=
  match fields.entries.lookup name with
  | some a => Document.readNullable read a
  | none => if fields.named then return none else liftM (none : Option (Option β))

/-! ## Plain data as a document -/

namespace Data

/-- The text, if the data is one. -/
def text? : Data → Option String
  | text value => some value
  | _ => none

/-- The entry that a key selects: a text is a name, and a natural number counts the names. A number with a
minus sign selects none, even if it is zero. -/
def named? (names : List String) : Data × Data → Option (Option (String × Data))
  | (text name, value) => some (some (name, value))
  | (natural n, value) => some (names[n]?.map (·, value))
  | _ => none

/-- Data as a record. -/
def fields? (names : List String) : Data → Option (Fields Data)
  | record entries => do
    let found ← entries.mapM (named? names)
    Fields.ofEntries? names (found.filterMap id)
  | list items => Fields.ofItems? names items
  | _ => none

/-- Data with its tag taken out. -/
def tagged? (tag : String) : Data → Option (String × Data)
  | record entries =>
    let isTag := fun entry : Data × Data => entry.1.text? == some tag
    match entries.filter isTag with
    | [(_, text value)] => some (value, record (entries.filter (!isTag ·)))
    | _ => none
  | list (text value :: items) => some (value, list items)
  | _ => none

instance : Document Option Data where
  text? := text?
  boolean?
    | boolean value => some value
    | _ => none
  natural?
    | natural n => some n
    | negative 0 => some 0
    | _ => none
  nullable?
    | null => some none
    | data => some (some data)
  list?
    | list items => some items
    | _ => none
  fields? := fields?
  map?
    | record entries => some entries
    | _ => none
  constant? := text?
  tagged? tag _ := tagged? tag

end Data

end DatasetHosting
