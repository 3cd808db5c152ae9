import DatasetHosting.Document.Dataset
import DatasetHosting.Storage.NodeFile

/-!
# Document/Storage — storage records as documents

Configurations, plans, provisioned storage, bindings and node files. The two fields of a configuration
are false where they are missing; a missing object store is none. The placements of a plan are a map from
kinds, in which a repeated kind counts with its last placement.
-/

namespace DatasetHosting

open Document

variable {m : Type → Type} [Monad m] [MonadLiftT Option m] {α : Type} [Document m α]

namespace Resource

/-- A kind of content, by its constant. -/
def ofDocument? (a : α) : m Resource :=
  readConstant all name a

/-- The kind's constant. -/
def toJson (resource : Resource) : Json :=
  .string resource.name

end Resource

namespace Placement

/-- A placement, by its name. -/
def ofDocument? (a : α) : m Placement :=
  readConstant all name a

/-- The placement's name. -/
def toJson (placement : Placement) : Json :=
  .string placement.name

end Placement

namespace StorageConfig

/-- The fields of a configuration. -/
def fieldNames : List String := ["store_avatars_in_s3", "store_attachments_in_s3"]

/-- A configuration. -/
def ofDocument? (a : α) : m StorageConfig := do
  let fields ← fields? fieldNames a
  return {
    avatarsInS3 := ← fields.orDefault "store_avatars_in_s3" false boolean?
    attachmentsInS3 := ← fields.orDefault "store_attachments_in_s3" false boolean? }

/-- A configuration as JSON. -/
def toJson (config : StorageConfig) : Json :=
  .record
    [("store_avatars_in_s3", .boolean config.avatarsInS3),
     ("store_attachments_in_s3", .boolean config.attachmentsInS3)]

end StorageConfig

namespace SharedHome

/-- The fields of a shared home. -/
def fieldNames : List String := ["ip", "path"]

/-- A shared home. -/
def ofDocument? (a : α) : m SharedHome := do
  let fields ← fields? fieldNames a
  return { ip := ← fields.required "ip" text?, path := ← fields.required "path" text? }

/-- A shared home as JSON. -/
def toJson (home : SharedHome) : Json :=
  .record [("ip", .string home.ip), ("path", .string home.path)]

end SharedHome

namespace ObjectStore

/-- The fields of an object store. -/
def fieldNames : List String := ["bucket", "region"]

/-- An object store. -/
def ofDocument? (a : α) : m ObjectStore := do
  let fields ← fields? fieldNames a
  return {
    bucket := ← fields.required "bucket" text?
    region := ← fields.required "region" Region.ofDocument? }

/-- An object store as JSON. -/
def toJson (store : ObjectStore) : Json :=
  .record [("bucket", .string store.bucket), ("region", store.region.toJson)]

end ObjectStore

namespace SharedStorage

/-- The fields of provisioned storage. -/
def fieldNames : List String := ["shared_home", "object_store"]

/-- Provisioned storage. -/
def ofDocument? (a : α) : m SharedStorage := do
  let fields ← fields? fieldNames a
  return {
    sharedHome := ← fields.required "shared_home" SharedHome.ofDocument?
    objectStore := ←
      fields.orDefault "object_store" none (readNullable ObjectStore.ofDocument?) }

/-- Provisioned storage as JSON. -/
def toJson (storage : SharedStorage) : Json :=
  .record
    [("shared_home", storage.sharedHome.toJson),
     ("object_store", .optional ObjectStore.toJson storage.objectStore)]

end SharedStorage

namespace Binding

/-- The fields of a binding. -/
def fieldNames : List String := ["resource", "placement", "location"]

/-- A binding. -/
def ofDocument? (a : α) : m Binding := do
  let fields ← fields? fieldNames a
  return {
    resource := ← fields.required "resource" Resource.ofDocument?
    placement := ← fields.required "placement" Placement.ofDocument?
    location := ← fields.required "location" text? }

/-- A binding as JSON. -/
def toJson (binding : Binding) : Json :=
  .record
    [("resource", binding.resource.toJson), ("placement", binding.placement.toJson),
     ("location", .string binding.location)]

end Binding

namespace Placements

/-- One kind with its placement. -/
def pairOfDocuments? (pair : α × α) : m (Resource × Placement) := do
  return (← Resource.ofDocument? pair.1, ← Placement.ofDocument? pair.2)

/-- The placements of a map. -/
def ofDocument? (a : α) : m Placements := do
  let pairs ← (← map? a).mapM pairOfDocuments?
  return ofList pairs

/-- Placements as JSON, in the order of the kinds. -/
def toJson (placements : Placements) : Json :=
  .record (placements.toList.map fun (resource, placement) => (resource.name, placement.toJson))

end Placements

namespace Plan

/-- The fields of a plan. -/
def fieldNames : List String := ["shared_home_path", "export_subnet", "placements"]

/-- A plan. -/
def ofDocument? (a : α) : m Plan := do
  let fields ← fields? fieldNames a
  return {
    sharedHomePath := ← fields.required "shared_home_path" text?
    exportSubnet := ← fields.required "export_subnet" text?
    placements := ← fields.required "placements" Placements.ofDocument? }

/-- A plan as JSON. -/
def toJson (plan : Plan) : Json :=
  .record
    [("shared_home_path", .string plan.sharedHomePath),
     ("export_subnet", .string plan.exportSubnet), ("placements", plan.placements.toJson)]

end Plan

namespace NodeFile

/-- The fields of a node file. -/
def fieldNames : List String := ["name", "contents", "append"]

/-- A node file. -/
def ofDocument? (a : α) : m NodeFile := do
  let fields ← fields? fieldNames a
  return {
    name := ← fields.required "name" text?
    contents := ← fields.required "contents" text?
    append := ← fields.required "append" boolean? }

/-- A node file as JSON. -/
def toJson (file : NodeFile) : Json :=
  .record
    [("name", .string file.name), ("contents", .string file.contents),
     ("append", .boolean file.append)]

end NodeFile

end DatasetHosting
