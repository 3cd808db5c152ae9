import DatasetHosting.Dataset.Location
import DatasetHosting.Storage.Resource

/-!
# Storage/Plan — where shared content is kept

A configuration asks for kinds of content in the object store. A plan says for each kind whether it stays
on the node, lies on the shared home that all nodes mount, or in the object store; kinds it does not
mention stay on the node. Against provisioned storage a plan gives the bindings, one location for each
kind that leaves the node.
-/

namespace DatasetHosting

open DatasetHosting.Text

/-- Which kinds go to the object store. -/
structure StorageConfig where
  /-- Avatars go there. -/
  avatarsInS3 : Bool := false
  /-- Attachments go there. -/
  attachmentsInS3 : Bool := false
  deriving DecidableEq, Repr, Inhabited

namespace StorageConfig

/-- Whether the kind goes to the object store. -/
def storesInS3 (config : StorageConfig) : Resource → Bool
  | .avatars => config.avatarsInS3
  | .attachments => config.attachmentsInS3

/-- Whether any kind goes to the object store. -/
def anyInS3 (config : StorageConfig) : Bool :=
  config.avatarsInS3 || config.attachmentsInS3

end StorageConfig

/-- Where content is kept. -/
inductive Placement where
  | nodeLocal
  | sharedHome
  | objectStore
  deriving DecidableEq, Repr, Inhabited

/-- The placement's name in documents. -/
def Placement.name : Placement → String
  | nodeLocal => "node_local"
  | sharedHome => "shared_home"
  | objectStore => "object_store"

/-- Every placement. -/
def Placement.all : List Placement := [nodeLocal, sharedHome, objectStore]

/-! ## Provisioned storage -/

/-- A directory that all nodes mount. -/
structure SharedHome where
  /-- The address of its server. -/
  ip : String
  /-- Its path on every node. -/
  path : String
  deriving DecidableEq, Repr, Inhabited

/-- A bucket that all nodes reach. -/
structure ObjectStore where
  /-- The bucket's name. -/
  bucket : String
  /-- The bucket's region. -/
  region : Region
  deriving DecidableEq, Repr, Inhabited

/-- Where the bucket keeps a kind. -/
def ObjectStore.uri (store : ObjectStore) (resource : Resource) : String :=
  "s3://" ++ store.bucket ++ "/" ++ resource.target

/-- The storage of one cluster. -/
structure SharedStorage where
  /-- The shared home. -/
  sharedHome : SharedHome
  /-- The object store, if the cluster has one. -/
  objectStore : Option ObjectStore
  deriving DecidableEq, Repr, Inhabited

/-- **The location of one kind of content**, the same on every node. -/
structure Binding where
  /-- The kind. -/
  resource : Resource
  /-- Where it is kept. -/
  placement : Placement
  /-- The directory or the URI. -/
  location : String
  deriving DecidableEq, Repr, Inhabited

/-! ## Plans -/

/-- A placement for some of the kinds. -/
structure Placements where
  /-- The placement of avatars. -/
  avatars : Option Placement := none
  /-- The placement of attachments. -/
  attachments : Option Placement := none
  deriving DecidableEq, Repr, Inhabited

namespace Placements

/-- The placement of a kind, if there is one. -/
def get? (placements : Placements) : Resource → Option Placement
  | .avatars => placements.avatars
  | .attachments => placements.attachments

/-- The placements with another one for a kind. -/
def insert (placements : Placements) (resource : Resource) (placement : Placement) : Placements :=
  match resource with
  | .avatars => { placements with avatars := some placement }
  | .attachments => { placements with attachments := some placement }

/-- The kinds that have a placement, in their fixed order. -/
def toList (placements : Placements) : List (Resource × Placement) :=
  Resource.all.filterMap fun resource => (placements.get? resource).map (resource, ·)

/-- The placements of a list of pairs; of two for one kind the later counts. -/
def ofList (pairs : List (Resource × Placement)) : Placements :=
  pairs.foldl (fun placements pair => placements.insert pair.1 pair.2) {}

end Placements

/-- Why a plan cannot be carried out: a kind belongs in an object store and there is none. -/
structure MissingObjectStore where
  /-- The first such kind. -/
  resource : Resource
  deriving DecidableEq, Repr

/-- The wording of the error. -/
def MissingObjectStore.message (e : MissingObjectStore) : String :=
  e.resource.target ++ " is placed in the object store, but no object store was provisioned"

/-- **A plan for the shared content of one cluster.** -/
structure Plan where
  /-- Where nodes mount the shared home. -/
  sharedHomePath : String
  /-- The subnet that may mount it. -/
  exportSubnet : String
  /-- Where each kind is kept. -/
  placements : Placements
  deriving DecidableEq, Repr, Inhabited

namespace Plan

/-- The placement that a configuration gives to a kind. -/
def placementFor (config : StorageConfig) (resource : Resource) : Placement :=
  if !resource.isShared then .nodeLocal
  else if config.storesInS3 resource then .objectStore
  else .sharedHome

/-- The plan of a configuration. -/
def ofConfig (config : StorageConfig) : Plan where
  sharedHomePath := "/opt/jira-shared-home"
  exportSubnet := "10.0.0.0/24"
  placements := .ofList (Resource.all.map fun resource => (resource, placementFor config resource))

/-- Where the plan keeps a kind. -/
def placement (plan : Plan) (resource : Resource) : Placement :=
  (plan.placements.get? resource).getD .nodeLocal

/-- Where the plan keeps home content. -/
def placementOf (plan : Plan) (content : HomeContent) : Placement :=
  match content.resource? with
  | some resource => plan.placement resource
  | none => .nodeLocal

/-- The kinds that the plan keeps in the object store. -/
def objectStoreResources (plan : Plan) : List Resource :=
  (plan.placements.toList.filter (·.2 == .objectStore)).map Prod.fst

/-- Whether the plan keeps anything in the object store. -/
def needsObjectStore (plan : Plan) : Bool :=
  plan.placements.toList.any (·.2 == .objectStore)

/-- The binding of a kind on provisioned storage, none for a kind that stays on the node. -/
def binding? (storage : SharedStorage) (resource : Resource) :
    Placement → Except MissingObjectStore (Option Binding)
  | .nodeLocal => .ok none
  | .sharedHome =>
    .ok (some ⟨resource, .sharedHome, underDirectory storage.sharedHome.path resource.homePath⟩)
  | .objectStore =>
    match storage.objectStore with
    | some store => .ok (some ⟨resource, .objectStore, store.uri resource⟩)
    | none => .error ⟨resource⟩

/-- The bindings of some kinds on provisioned storage. -/
def bindingsOf (storage : SharedStorage) :
    List (Resource × Placement) → Except MissingObjectStore (List Binding)
  | [] => .ok []
  | (resource, placement) :: rest => do
    let first ← binding? storage resource placement
    let others ← bindingsOf storage rest
    return first.toList ++ others

/-- **The bindings of a plan**, in the order of the kinds. -/
def bindings (plan : Plan) (storage : SharedStorage) : Except MissingObjectStore (List Binding) :=
  bindingsOf storage plan.placements.toList

end Plan

/-- The bindings of a node that keeps everything in its own home directory. -/
def nodeLocalBindings (jiraHome : String) : List Binding :=
  Resource.all.map fun resource =>
    ⟨resource, .nodeLocal, underDirectory jiraHome resource.homePath⟩

end DatasetHosting
