import DatasetHosting.Dataset.Basic
import DatasetHosting.Document.Basic
import DatasetHosting.Document.Json.Basic

/-!
# Document/Dataset — datasets as documents

Each record lists its fields in order, is read from a document of any notation and is written as JSON. A
region is written as its name alone.
-/

namespace DatasetHosting

open Document

variable {m : Type → Type} [Monad m] [MonadLiftT Option m] {α : Type} [Document m α]

namespace Region

/-- A region, by its name. -/
def ofDocument? (a : α) : m Region := do
  return ⟨← text? a⟩

/-- The region's name. -/
def toJson (region : Region) : Json :=
  .string region.name

end Region

namespace Location

/-- The fields of a location. -/
def fieldNames : List String := ["uri", "region"]

/-- A location. -/
def ofDocument? (a : α) : m Location := do
  let fields ← fields? fieldNames a
  return {
    uri := ← fields.required "uri" text?
    region := ← fields.required "region" Region.ofDocument? }

/-- A location as JSON. -/
def toJson (location : Location) : Json :=
  .record [("uri", .string location.uri), ("region", location.region.toJson)]

end Location

namespace Package

/-- The fields of an archive. -/
def fieldNames : List String := ["artifact_name", "unpacked_path", "download_timeout_minutes"]

/-- An archive. -/
def ofDocument? (a : α) : m Package := do
  let fields ← fields? fieldNames a
  return {
    artifactName := ← fields.required "artifact_name" text?
    unpackedPath := ← fields.required "unpacked_path" text?
    downloadTimeoutMinutes := ← fields.required "download_timeout_minutes" readUInt64 }

/-- An archive as JSON. -/
def toJson (package : Package) : Json :=
  .record
    [("artifact_name", .string package.artifactName),
     ("unpacked_path", .string package.unpackedPath),
     ("download_timeout_minutes", .natural package.downloadTimeoutMinutes.toNat)]

end Package

namespace Dataset

/-- The fields of a dataset. -/
def fieldNames : List String := ["id", "label", "format", "location", "database", "jira_home"]

/-- A dataset. -/
def ofDocument? (a : α) : m Dataset := do
  let fields ← fields? fieldNames a
  return {
    id := ← fields.required "id" text?
    label := ← fields.required "label" text?
    format := ← fields.required "format" readUInt32
    location := ← fields.required "location" Location.ofDocument?
    database := ← fields.required "database" Package.ofDocument?
    jiraHome := ← fields.required "jira_home" Package.ofDocument? }

/-- A dataset as JSON. -/
def toJson (dataset : Dataset) : Json :=
  .record
    [("id", .string dataset.id), ("label", .string dataset.label),
     ("format", .natural dataset.format.toNat), ("location", dataset.location.toJson),
     ("database", dataset.database.toJson), ("jira_home", dataset.jiraHome.toJson)]

end Dataset

end DatasetHosting
