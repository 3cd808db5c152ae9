import DatasetHosting.Storage.Home

/-!
# Storage/Resource — content that all nodes of a cluster share

Avatars and attachments are uploaded by users and change at any time, so every node that serves a
dataset must see the same copy. All other content of the home directory belongs to one node.
-/

namespace DatasetHosting

/-- A kind of shared content. -/
inductive Resource where
  | avatars
  | attachments
  deriving DecidableEq, Repr, Inhabited

namespace Resource

/-- All kinds, in their fixed order. -/
def all : List Resource := [avatars, attachments]

/-- Whether every node must see the same copy. -/
def isShared : Resource → Bool
  | avatars => true
  | attachments => true

/-- The kind's constant in documents. -/
def name : Resource → String
  | avatars => "AVATARS"
  | attachments => "ATTACHMENTS"

/-- The home content of the kind. -/
def content : Resource → HomeContent
  | avatars => .avatars
  | attachments => .attachments

/-- The directory of the kind, relative to the home directory. -/
def homePath : Resource → String
  | avatars => "data/avatars"
  | attachments => "data/attachments"

/-- The kind's name in the file store configuration and in messages. -/
def target : Resource → String
  | avatars => "avatars"
  | attachments => "attachments"

end Resource

/-- The kind of shared content that home content is, if it is shared. -/
def HomeContent.resource? : HomeContent → Option Resource
  | avatars => some .avatars
  | attachments => some .attachments
  | _ => none

/-- Whether the content must be the same on all nodes. -/
def HomeContent.isShared (content : HomeContent) : Bool :=
  content.resource?.any Resource.isShared

end DatasetHosting
