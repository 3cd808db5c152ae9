import DatasetHosting.Text.Slash

/-!
# Storage/Home — what a path in the home directory holds

The home directory has a fixed layout of eight directories. A path belongs to the longest of them that
contains it, where a directory contains itself and what lies below it at a slash; any other path stands
for itself.
-/

namespace DatasetHosting

open DatasetHosting.Text

/-- What a path in the home directory holds. -/
inductive HomeContent where
  | avatars
  | attachments
  | plugins
  | logos
  | imports
  | exports
  | caches
  | logs
  /-- Content outside the layout, under its normalised path. -/
  | other (path : String)
  deriving DecidableEq, Repr, Inhabited

namespace HomeContent

/-- The directories of the layout and what they hold. -/
def layout : List (String × HomeContent) :=
  [("data/avatars", avatars), ("data/attachments", attachments), ("plugins", plugins),
   ("logos", logos), ("import", imports), ("export", exports), ("caches", caches), ("log", logs)]

/-- The path less every `./` it starts with. -/
def dropDotSlash : List Char → List Char
  | '.' :: '/' :: rest => dropDotSlash rest
  | cs => cs

/-- **The normal form of a path**: without `./` in front, then without slashes at either end. -/
def normalise (path : String) : String :=
  String.ofList (trimSlashes (dropDotSlash path.toList))

/-- The rest of a path and the directories that it lies in, longest first, where `before` is what
stands in front of the rest, last character first. -/
def enclosingFrom (before : List Char) : (rest : List Char) → List String
  | [] => [String.ofList before.reverse]
  | c :: rest =>
    if c = '/' then enclosingFrom (c :: before) rest ++ [String.ofList before.reverse]
    else enclosingFrom (c :: before) rest

/-- A path and the directories that it lies in, longest first: what stands before each slash. -/
def enclosing (path : String) : List String :=
  enclosingFrom [] path.toList

/-- **What a path holds**, by the longest layout directory that contains it. -/
def ofPath (path : String) : HomeContent :=
  let normal := normalise path
  match (enclosing normal).findSome? fun directory => List.lookup directory layout with
  | some content => content
  | none => other normal

/-- The path of the content, relative to the home directory. -/
def path : HomeContent → String
  | avatars => "data/avatars"
  | attachments => "data/attachments"
  | plugins => "plugins"
  | logos => "logos"
  | imports => "import"
  | exports => "export"
  | caches => "caches"
  | logs => "log"
  | other path => path

/-- The category's name. -/
def category : HomeContent → String
  | avatars => "avatars"
  | attachments => "attachments"
  | plugins => "plugins"
  | logos => "logos"
  | imports => "import"
  | exports => "export"
  | caches => "caches"
  | logs => "logs"
  | other _ => "other"

end HomeContent

end DatasetHosting
