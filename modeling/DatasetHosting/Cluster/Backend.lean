import DatasetHosting.Cluster.Event
import DatasetHosting.Cluster.Register
import DatasetHosting.Dataset.Basic
import DatasetHosting.Storage.NodeFile

/-!
# Cluster/Backend — the simulated cloud

The backend keeps the storage of one cluster and what it knows about each node, and it logs every call
that succeeds. A scenario sets the bucket, makes operations fail and chooses the status documents of
nodes. Each operation either fails and leaves no trace, or returns its answer with the next backend: shared
content is bound only where its storage is ready.
-/

namespace DatasetHosting

/-! ## Calls -/

/-- The operations of a backend. -/
inductive Operation where
  | provisionSharedStorage
  | provisionNode
  | mountSharedHome
  | bindResource
  | writeNodeFile
  | nodeStatus
  | releaseNode
  | releaseSharedStorage
  deriving DecidableEq, Repr, Inhabited

/-- The operation's name in messages. -/
def Operation.name : Operation → String
  | provisionSharedStorage => "ProvisionSharedStorage"
  | provisionNode => "ProvisionNode"
  | mountSharedHome => "MountSharedHome"
  | bindResource => "BindResource"
  | writeNodeFile => "WriteNodeFile"
  | nodeStatus => "NodeStatus"
  | releaseNode => "ReleaseNode"
  | releaseSharedStorage => "ReleaseSharedStorage"

/-- Why an operation failed. -/
inductive BackendError where
  /-- The scenario makes it fail. -/
  | injected (operation : Operation) (target : String)
  /-- The storage that it needs is not there. -/
  | storageNotReady (node : String)
  /-- No such node has been provisioned. -/
  | unknownNode (node : String)
  deriving DecidableEq, Repr

/-- The wording of a backend error. -/
def BackendError.message : BackendError → String
  | injected operation target => "Injected failure of " ++ operation.name ++ s!" on '{target}'"
  | storageNotReady node => s!"Node '{node}' used shared storage before it was provisioned"
  | unknownNode node => s!"Node '{node}' is not known to the simulated backend"

/-- A request for one node. -/
structure NodeSpec where
  /-- The node's place in its cluster. -/
  index : UInt64
  /-- The node's name. -/
  name : String
  deriving DecidableEq, Repr, Inhabited

/-- A provisioned node, as its backend hands it out. -/
structure NodeAddress where
  /-- The node's name. -/
  name : String
  /-- The address that other nodes reach it on. -/
  privateIp : String
  deriving DecidableEq, Repr, Inhabited

/-! ## State -/

/-- What a backend knows about one node. -/
structure NodeState where
  /-- The shared home that the node mounts. -/
  mounted : Option SharedHome := none
  /-- The bindings made on it, in order. -/
  bindings : List Binding := []
  /-- The contents of its files. -/
  files : Register String := []
  /-- Whether it has been released. -/
  released : Bool := false
  deriving DecidableEq, Repr, Inhabited

/-- What a scenario lays down. -/
structure Scenario where
  /-- The bucket for object stores; without one there are none. -/
  bucket : Option String := some "perf-infra-shared-storage"
  /-- Operations that fail, on one target or on all. -/
  failures : List (Operation × Option String) := []
  /-- The status documents of nodes. -/
  statuses : Register String := []
  deriving DecidableEq, Repr, Inhabited

/-- **A simulated backend.** -/
structure Backend where
  /-- What the scenario lays down. -/
  scenario : Scenario := {}
  /-- The storage of the cluster, while it has one. -/
  storage : Option SharedStorage := none
  /-- The nodes provisioned so far, released ones included. -/
  nodes : Register NodeState := []
  /-- The calls that succeeded. -/
  events : EventLog := []
  deriving DecidableEq, Repr, Inhabited

/-- Whether the scenario makes the operation fail on the target. -/
def Scenario.fails (scenario : Scenario) (operation : Operation) (target : String) : Bool :=
  scenario.failures.any fun (failing, only) =>
    failing == operation && only.all (· == target)

namespace Scenario

/-- The scenario with object stores in the given bucket. -/
def withBucket (scenario : Scenario) (bucket : String) : Scenario :=
  { scenario with bucket := some bucket }

/-- The scenario without object stores. -/
def withoutObjectStore (scenario : Scenario) : Scenario :=
  { scenario with bucket := none }

/-- The scenario in which the operation fails as well, on the target or, without one, on all. -/
def failOn (scenario : Scenario) (operation : Operation) (only : Option String) : Scenario :=
  { scenario with failures := scenario.failures ++ [(operation, only)] }

/-- The scenario in which a node answers with the document. -/
def withStatus (scenario : Scenario) (node document : String) : Scenario :=
  { scenario with statuses := scenario.statuses.set node document }

end Scenario

/-- The status document of a node that the scenario does not mention. -/
def runningStatus : String := "\x7b\"state\":\"RUNNING\"\x7d"

namespace Backend

/-- The address of the shared home. -/
def sharedHomeIp : String := "10.0.0.4"

/-- The address of the node with the given index, in words of 64 bits. -/
def nodeIp (index : UInt64) : String :=
  "10.0.0." ++ toString (10 + index).toNat

/-- Fails if the scenario says so. -/
def check (backend : Backend) (operation : Operation) (target : String) :
    Except BackendError Unit :=
  if backend.scenario.fails operation target then .error (.injected operation target) else .ok ()

/-- The backend with one more event. -/
def record (backend : Backend) (event : Event) : Backend :=
  { backend with events := backend.events ++ [event] }

/-- The backend without its events. All else it remembers. -/
def clearEvents (backend : Backend) : Backend :=
  { backend with events := [] }

/-- The backend in a changed scenario, with its state and its events. -/
def changeScenario (backend : Backend) (change : Scenario → Scenario) : Backend :=
  { backend with scenario := change backend.scenario }

/-- What is known about a node. -/
def node (backend : Backend) (name : String) : Except BackendError NodeState :=
  match backend.nodes.get? name with
  | some state => .ok state
  | none => .error (.unknownNode name)

/-- The backend with other knowledge about a node. -/
def setNode (backend : Backend) (name : String) (state : NodeState) : Backend :=
  { backend with nodes := backend.nodes.set name state }

/-! ## Operations -/

/-- The storage that the backend makes for a dataset: an object store only if the plan needs one and there
is a bucket. -/
def storageFor (backend : Backend) (dataset : Dataset) (plan : Plan) : SharedStorage where
  sharedHome := ⟨sharedHomeIp, plan.sharedHomePath⟩
  objectStore :=
    if plan.needsObjectStore then
      backend.scenario.bucket.map fun bucket => ⟨bucket, dataset.location.region⟩
    else none

/-- Provisions the storage of a cluster. -/
def provisionSharedStorage (dataset : Dataset) (plan : Plan) (backend : Backend) :
    Except BackendError (SharedStorage × Backend) := do
  backend.check .provisionSharedStorage dataset.id
  let storage := backend.storageFor dataset plan
  let event := .sharedStorageProvisioned dataset.id plan.exportSubnet storage.objectStore.isSome
  return (storage, { backend with storage := some storage }.record event)

/-- Provisions a node. Nothing stays of an earlier node of the same name. -/
def provisionNode (spec : NodeSpec) (backend : Backend) :
    Except BackendError (NodeAddress × Backend) := do
  backend.check .provisionNode spec.name
  let address : NodeAddress := ⟨spec.name, nodeIp spec.index⟩
  return (address, (backend.setNode spec.name {}).record (.nodeProvisioned spec.name address.privateIp))

/-- Mounts a shared home on a node, while there is storage. -/
def mountSharedHome (node : NodeAddress) (home : SharedHome) (backend : Backend) :
    Except BackendError (Unit × Backend) := do
  backend.check .mountSharedHome node.name
  if backend.storage.isNone then .error (.storageNotReady node.name)
  let state ← backend.node node.name
  return ((), (backend.setNode node.name { state with mounted := some home }).record
    (.sharedHomeMounted node.name home.ip))

/-- Whether content of the given placement can be bound on the node. -/
def isReady (backend : Backend) (node : String) : Placement → Except BackendError Bool
  | .nodeLocal => .ok true
  | .sharedHome => do return (← backend.node node).mounted.isSome
  | .objectStore => .ok (backend.storage.any (·.objectStore.isSome))

/-- Binds a resource on a node, if its storage is ready. -/
def bindResource (node : NodeAddress) (binding : Binding) (backend : Backend) :
    Except BackendError (Unit × Backend) := do
  backend.check .bindResource node.name
  if !(← backend.isReady node.name binding.placement) then .error (.storageNotReady node.name)
  let state ← backend.node node.name
  return ((), (backend.setNode node.name { state with bindings := state.bindings ++ [binding] }).record
    (.resourceBound node.name binding))

/-- The contents of a file after writing to it. -/
def fileAfter (old : Option String) (file : NodeFile) : String :=
  if file.append then old.getD "" ++ file.contents else file.contents

/-- Writes a file on a node. -/
def writeNodeFile (node : NodeAddress) (file : NodeFile) (backend : Backend) :
    Except BackendError (Unit × Backend) := do
  backend.check .writeNodeFile node.name
  let state ← backend.node node.name
  let files := state.files.set file.name (fileAfter (state.files.get? file.name) file)
  return ((), (backend.setNode node.name { state with files := files }).record
    (.fileWritten node.name file.name))

/-- Asks a node for its status document. Any name is answered for. -/
def nodeStatus (node : NodeAddress) (backend : Backend) : Except BackendError (String × Backend) := do
  backend.check .nodeStatus node.name
  return ((backend.scenario.statuses.get? node.name).getD runningStatus,
    backend.record (.statusQueried node.name))

/-- Releases a node. -/
def releaseNode (node : NodeAddress) (backend : Backend) : Except BackendError (Unit × Backend) := do
  backend.check .releaseNode node.name
  let state ← backend.node node.name
  return ((), (backend.setNode node.name { state with released := true }).record
    (.nodeReleased node.name))

/-- Releases the storage of the cluster, whether or not there is any. -/
def releaseSharedStorage (backend : Backend) : Except BackendError (Unit × Backend) := do
  backend.check .releaseSharedStorage sharedHomeIp
  return ((), { backend with storage := none }.record .sharedStorageReleased)

end Backend

end DatasetHosting
