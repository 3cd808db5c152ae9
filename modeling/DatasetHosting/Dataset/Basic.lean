import DatasetHosting.Dataset.Identifier
import DatasetHosting.Dataset.Location

/-!
# Dataset/Basic — datasets

A dataset is a filled database and a home directory, each published as one archive under the dataset's
location. Its format is the version of the layout that the archives follow.
-/

namespace DatasetHosting

/-- One archive of a dataset. -/
structure Package where
  /-- The archive's file name. -/
  artifactName : String
  /-- The directory it unpacks to. -/
  unpackedPath : String
  /-- How many minutes its download may take. -/
  downloadTimeoutMinutes : UInt64
  deriving DecidableEq, Repr, Inhabited

/-- The archive of the directory `name`: it is named after it, and ten minutes suffice to fetch it. -/
def Package.ofDirectory (name : String) : Package :=
  ⟨name ++ ".tar.bz2", name, 10⟩

/-- A dataset. -/
structure Dataset where
  /-- The identifier, `dataset-` and a UUID if it is well formed. -/
  id : String
  /-- A name for people. -/
  label : String
  /-- The version of its layout. -/
  format : UInt32
  /-- Where its archives are. -/
  location : Location
  /-- The database archive. -/
  database : Package
  /-- The home directory archive. -/
  jiraHome : Package
  deriving DecidableEq, Repr, Inhabited

namespace Dataset

/-- The UUID in the dataset's identifier. -/
def uuid (dataset : Dataset) : Except IdentifierError Uuid :=
  parseIdentifier dataset.id

/-- **A dataset published at a location**: named after the last segment, with the usual archives. -/
def publishedAt (location : Location) (format : UInt32) : Dataset where
  id := location.lastSegment?.getD ""
  label := "custom"
  format := format
  location := location
  database := .ofDirectory "database"
  jiraHome := .ofDirectory "jirahome"

/-- The dataset under another label. -/
def withLabel (dataset : Dataset) (label : String) : Dataset :=
  { dataset with label := label }

/-- The dataset with another limit for the database download. -/
def withDatabaseMinutes (dataset : Dataset) (minutes : UInt64) : Dataset :=
  { dataset with database.downloadTimeoutMinutes := minutes }

/-- The dataset with another limit for the home directory download. -/
def withJiraHomeMinutes (dataset : Dataset) (minutes : UInt64) : Dataset :=
  { dataset with jiraHome.downloadTimeoutMinutes := minutes }

end Dataset

end DatasetHosting
