import DatasetHosting.Cluster.Run

/-!
# Cluster/Provision — carrying out a formula

A data center is built storage first, then node after node. If that fails after the storage is there, the
nodes allocated so far and the storage are released again and the run fails as it failed at first: failures
to release are only reported. The lists of addresses and of nodes are given their room beforehand, the first
when the storage is there and the second when the bindings are known. Where there is no such room the run
breaks off, and nothing is released.
-/

namespace DatasetHosting

/-! ## Clusters -/

/-- A node of a cluster. -/
structure ProvisionedNode where
  /-- Its place in the cluster. -/
  index : UInt64
  /-- Its name. -/
  name : String
  /-- Its address. -/
  address : NodeAddress
  /-- Where its shared content is. -/
  bindings : List Binding
  deriving DecidableEq, Repr

/-- **A hosted dataset.** -/
structure Cluster where
  /-- How it is hosted. -/
  kind : HostKind
  /-- Which dataset. -/
  datasetId : String
  /-- The nodes in order. -/
  nodes : List ProvisionedNode
  /-- The storage that the nodes share. -/
  sharedStorage : Option SharedStorage
  /-- The address of an external server. -/
  address : Option String
  deriving DecidableEq, Repr

/-! ### Room

Sizes are in bytes. A word has eight; a text or a list is three words that say where its items are, how many
there are and for how many there is room. -/

/-- The size of a text, or of a list, without its items. -/
def listBytes : Nat :=
  3 * 8

/-- The size of an address: two texts. -/
def NodeAddress.bytes : Nat :=
  2 * listBytes

/-- The size of a node: an index, a name, an address and a list of bindings. -/
def ProvisionedNode.bytes : Nat :=
  8 + listBytes + NodeAddress.bytes + listBytes

/-! ## Formulas -/

/-- Refuses a dataset of a format below the least one. -/
def Dataset.checkFormat (dataset : Dataset) (minFormat : Option UInt32) : Except FormulaError Unit :=
  match minFormat with
  | some least =>
    if dataset.format < least then .error (.incompatibleDataset dataset.id dataset.format least)
    else .ok ()
  | none => .ok ()

namespace Formula

open Run

/-- Refuses what the formula cannot carry out. -/
def refuse {α : Type} (check : Except FormulaError α) : Run α :=
  ofExcept (check.mapError .formula)

/-! ## One node, and none -/

/-- Hosts a dataset on one node of its own. -/
def provisionStandalone (dataset : Dataset) (minFormat : Option UInt32) : Run Cluster := do
  refuse (dataset.checkFormat minFormat)
  report .info "setting up standalone Jira" [("dataset", .text dataset.id)]
  let spec : NodeSpec := ⟨0, "standalone"⟩
  let address ← call (Backend.provisionNode spec)
  report .info "standalone Jira is set up" [("dataset", .text dataset.id)]
  return {
    kind := .standalone
    datasetId := dataset.id
    nodes := [⟨spec.index, spec.name, address, nodeLocalBindings dataset.jiraHome.unpackedPath⟩]
    sharedStorage := none
    address := none }

/-- Takes the server at the address for the dataset's host. The backend is not asked. -/
def provisionExternal (dataset : Dataset) (address : String) : Run Cluster := do
  report .info "using externally hosted Jira"
    [("dataset", .text dataset.id), ("address", .text address)]
  return {
    kind := .external
    datasetId := dataset.id
    nodes := []
    sharedStorage := none
    address := some address }

/-! ## A data center -/

/-- A build that stopped, with the nodes that it had allocated. -/
structure Halt where
  /-- Why it stopped. -/
  cause : Failure
  /-- The nodes allocated by then, in order. -/
  allocated : List NodeAddress
  deriving DecidableEq, Repr

/-- What every node of a data center gets. -/
structure NodeSetup where
  /-- The dataset it serves. -/
  dataset : Dataset
  /-- The storage it shares. -/
  storage : SharedStorage
  /-- The bindings to make. -/
  bindings : List Binding
  /-- The file store configuration, if there is one. -/
  filestore : Option NodeFile

/-- The name of the node with the given index. -/
def nodeName (index : UInt64) : String :=
  "dc-" ++ toString index.toNat

/-- Makes the bindings of a node, one after the other. -/
def bindAll (address : NodeAddress) : List Binding → Run Unit
  | [] => pure ()
  | binding :: rest => do
    report .debug "binding shared resource"
      [("node", .text address.name), ("resource", .text binding.resource.target),
       ("location", .text binding.location)]
    call (Backend.bindResource address binding)
    bindAll address rest

/-- Mounts the shared home on a node, makes its bindings and writes its files. -/
def configureNode (setup : NodeSetup) (spec : NodeSpec) (address : NodeAddress) : Run Unit := do
  call (Backend.mountSharedHome address setup.storage.sharedHome)
  bindAll address setup.bindings
  let properties :=
    NodeFile.clusterProperties spec.index address.privateIp setup.storage.sharedHome.path
  call (Backend.writeNodeFile address properties)
  match setup.filestore with
  | some file => call (Backend.writeNodeFile address file)
  | none => pure ()

/-- Provisions `todo` nodes from the given index on. A node counts as allocated from the moment the
backend hands it out. -/
def provisionNodes (setup : NodeSetup) :
    (todo : Nat) → (index : UInt64) → RunT Halt (List ProvisionedNode)
  | 0, _ => return []
  | todo + 1, index => do
    let spec : NodeSpec := ⟨index, nodeName index⟩
    let address ← mapError (Halt.mk · []) (call (Backend.provisionNode spec))
    mapError (fun halt => { halt with allocated := address :: halt.allocated }) do
      mapError (Halt.mk · []) (configureNode setup spec address)
      report .info "node is ready" [("dataset", .text setup.dataset.id), ("node", .text spec.name)]
      let others ← provisionNodes setup todo (index + 1)
      return ⟨index, spec.name, address, setup.bindings⟩ :: others

/-- Provisions the nodes of a data center on storage that is there. -/
def buildNodes (dataset : Dataset) (nodes : UInt64) (plan : Plan) (storage : SharedStorage) :
    RunT Halt (List ProvisionedNode) := do
  let bindings ← mapError (Halt.mk · [])
    (refuse ((plan.bindings storage).mapError .missingObjectStore))
  let filestore := storage.objectStore.bind (NodeFile.filestoreConfig? · bindings)
  reserve nodes ProvisionedNode.bytes
  provisionNodes ⟨dataset, storage, bindings, filestore⟩ nodes.toNat 0

/-- Releases allocated nodes, each whether or not the others can be released. -/
def releaseAllocated : List NodeAddress → Run Unit
  | [] => pure ()
  | address :: rest => do
    orReport (call (Backend.releaseNode address)) "failed to release node"
      [("node", .text address.privateIp)]
    releaseAllocated rest

/-- **Undoes a build**: releases the allocated nodes, then the storage. -/
def rollBack (allocated : List NodeAddress) (storage : SharedStorage) : Run Unit := do
  releaseAllocated allocated
  orReport (call Backend.releaseSharedStorage) "failed to release shared storage"
    [("shared_home", .text storage.sharedHome.ip)]

/-- **Hosts a dataset on a data center.** -/
def provisionDataCenter (dataset : Dataset) (nodes : UInt64) (config : StorageConfig)
    (minFormat : Option UInt32) : Run Cluster := do
  refuse (dataset.checkFormat minFormat)
  if nodes < Strategy.minNodes then refuse (.error (.tooFewNodes nodes))
  report .info "setting up Jira Data Center"
    [("dataset", .text dataset.id), ("nodes", .number nodes.toNat)]
  report .info "setting up shared home" [("dataset", .text dataset.id)]
  let plan := Plan.ofConfig config
  let storage ← call (Backend.provisionSharedStorage dataset plan)
  report .info "shared home is set up"
    [("dataset", .text dataset.id), ("shared_home", .text storage.sharedHome.ip)]
  reserve nodes NodeAddress.bytes
  match ← attempt (buildNodes dataset nodes plan storage) with
  | .ok built =>
    return {
      kind := .dataCenter
      datasetId := dataset.id
      nodes := built
      sharedStorage := some storage
      address := none }
  | .error halt =>
    report .warn "rolling back partial Data Center"
      [("dataset", .text dataset.id), ("error", .text halt.cause.message)]
    rollBack halt.allocated storage
    ofExcept (.error halt.cause)

/-- **Carries out a formula.** -/
def provision (formula : Formula) : Run Cluster :=
  match formula.strategy with
  | .standalone minFormat => provisionStandalone formula.dataset minFormat
  | .dataCenter nodes config minFormat =>
    provisionDataCenter formula.dataset nodes config minFormat
  | .external address => provisionExternal formula.dataset address

end Formula

end DatasetHosting
