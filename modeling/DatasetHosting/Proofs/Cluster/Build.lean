import DatasetHosting.Proofs.Cluster.Run

/-!
# Proofs/Cluster/Build — the calls that build the nodes of a data center

Building is one fixed list of calls, node after node (`nodesCalls`): provision, mount, the bindings in
order, the cluster properties, and the file store configuration if there is one.  `provisionNodes` makes
exactly these calls up to the first that fails, and halts with the addresses handed out by then.
-/

namespace DatasetHosting

/-- The address that a call hands out if it succeeds. -/
def Call.allocated? : Call → Option NodeAddress
  | provisionNode spec => some ⟨spec.name, Backend.nodeIp spec.index⟩
  | _ => none

/-- The addresses that calls hand out, in order. -/
def allocatedIn (calls : List Call) : List NodeAddress :=
  calls.filterMap Call.allocated?

theorem allocatedIn_append (calls rest : List Call) :
    allocatedIn (calls ++ rest) = allocatedIn calls ++ allocatedIn rest :=
  List.filterMap_append

namespace Formula

variable {session : Session} {setup : NodeSetup}

/-! ## The canonical calls -/

/-- The address of the node with the given index. -/
def nodeAddress (index : UInt64) : NodeAddress :=
  ⟨nodeName index, Backend.nodeIp index⟩

/-- The calls that configure an allocated node. -/
def configureCalls (setup : NodeSetup) (index : UInt64) : List Call :=
  let address := nodeAddress index
  let properties :=
    NodeFile.clusterProperties index address.privateIp setup.storage.sharedHome.path
  .mountSharedHome address setup.storage.sharedHome ::
    (setup.bindings.map (.bindResource address) ++
      .writeNodeFile address properties :: (setup.filestore.map (.writeNodeFile address)).toList)

/-- The calls that build one node. -/
def nodeCalls (setup : NodeSetup) (index : UInt64) : List Call :=
  .provisionNode ⟨index, nodeName index⟩ :: configureCalls setup index

/-- **The calls that build `count` nodes** from the given index on. -/
def nodesCalls (setup : NodeSetup) (start count : Nat) : List Call :=
  (List.range' start count).flatMap fun i => nodeCalls setup (.ofNat i)

/-- The node that is built under an index. -/
def builtNode (setup : NodeSetup) (index : UInt64) : ProvisionedNode :=
  ⟨index, nodeName index, nodeAddress index, setup.bindings⟩

/-- How a build halts behind calls that succeeded. -/
def haltBehind (done : List Call) (error : BackendError) : Halt :=
  ⟨.backend error, allocatedIn done⟩

theorem nodesCalls_succ (setup : NodeSetup) (start count : Nat) :
    nodesCalls setup start (count + 1) =
      nodeCalls setup (.ofNat start) ++ nodesCalls setup (start + 1) count := by
  rw [nodesCalls, List.range'_succ, List.flatMap_cons]
  rfl

/-! ## Configuring a node -/

/-- What holds of mounting, of the bindings and of every file holds of each call. -/
theorem forall_mem_configureCalls {Holds : Call → Prop} {index : UInt64}
    (hmount : Holds (.mountSharedHome (nodeAddress index) setup.storage.sharedHome))
    (hbind : ∀ binding, Holds (.bindResource (nodeAddress index) binding))
    (hwrite : ∀ file, Holds (.writeNodeFile (nodeAddress index) file)) :
    ∀ call ∈ configureCalls setup index, Holds call := by
  intro call h
  simp only [configureCalls, List.mem_cons, List.mem_append, List.mem_map, Option.mem_toList,
    Option.map_eq_some_iff] at h
  rcases h with rfl | ⟨binding, -, rfl⟩ | rfl | ⟨file, -, rfl⟩
  · exact hmount
  · exact hbind binding
  · exact hwrite _
  · exact hwrite file

/-- No address is handed out while a node is configured. -/
theorem allocatedIn_of_forall_mem_configureCalls {index : UInt64} {done : List Call}
    (h : ∀ call ∈ done, call ∈ configureCalls setup index) : allocatedIn done = [] := by
  have hnone : ∀ call ∈ configureCalls setup index, call.allocated? = none :=
    forall_mem_configureCalls rfl (fun _ => rfl) fun _ => rfl
  exact List.filterMap_eq_nil_iff.mpr fun call hc => hnone call (h call hc)

theorem bindAll_carriesOut (address : NodeAddress) (bindings : List Binding) (session : Session) :
    CarriesOut (bindAll address bindings) session (bindings.map (.bindResource address)) ()
      fun _ error => .backend error := by
  induction bindings generalizing session with
  | nil => exact .pure
  | cons binding rest ih =>
    refine .bind (.report _ _ _) fun session₁ _ => ?_
    exact .callThen rfl ih

theorem configureNode_carriesOut (setup : NodeSetup) (index : UInt64) (session : Session) :
    CarriesOut (configureNode setup ⟨index, nodeName index⟩ (nodeAddress index)) session
      (configureCalls setup index) () fun _ error => .backend error := by
  refine .callThen rfl fun session₁ => ?_
  refine .bind (bindAll_carriesOut _ _ _) fun session₂ _ => ?_
  refine .callThen rfl fun session₃ => ?_
  cases setup.filestore with
  | none => exact .pure
  | some file => exact .callDone rfl

/-! ## Building the nodes -/

/-- Calls that hand out no address do not show in how a build halts. -/
theorem haltBehind_append {done : List Call} (h : allocatedIn done = []) (more : List Call) :
    haltBehind (done ++ more) = haltBehind more := by
  funext error
  rw [haltBehind, haltBehind, allocatedIn_append, h]
  rfl

theorem provisionNode_carriesOut (index : UInt64) (session : Session) :
    CarriesOut
      (Run.mapError (Halt.mk · []) (Run.call (Backend.provisionNode ⟨index, nodeName index⟩)))
      session [.provisionNode ⟨index, nodeName index⟩] (nodeAddress index) haltBehind := by
  have hcall : CarriesOut (Run.call (Backend.provisionNode ⟨index, nodeName index⟩)) session
      [.provisionNode ⟨index, nodeName index⟩] (nodeAddress index) fun _ error => .backend error :=
    .call rfl fun _ h => (Answer.node.inj h).symm
  refine (hcall.mapError _).congr fun done call rest error h => ?_
  rcases List.append_eq_singleton_iff.mp h.symm with ⟨rfl, -⟩ | ⟨-, hrest⟩
  · rfl
  · cases hrest

/-- A node that is allocated is configured, and the other nodes are built. -/
theorem readyNode_carriesOut {index : UInt64} {others : RunT Halt (List ProvisionedNode)}
    {calls : List Call} {built : List ProvisionedNode} {fields : List (String × LogValue)}
    (hothers : ∀ session, CarriesOut others session calls built haltBehind) (session : Session) :
    CarriesOut
      (do
        Run.mapError (Halt.mk · [])
          (configureNode setup ⟨index, nodeName index⟩ (nodeAddress index))
        Run.report .info "node is ready" fields
        let others ← others
        return builtNode setup index :: others)
      session (configureCalls setup index ++ calls) (builtNode setup index :: built)
      haltBehind := by
  have hconfigure : CarriesOut
      (Run.mapError (Halt.mk · [])
        (configureNode setup ⟨index, nodeName index⟩ (nodeAddress index)))
      session (configureCalls setup index) () haltBehind := by
    refine ((configureNode_carriesOut setup index session).mapError _).congr ?_
    intro done call rest error h
    have hnone : allocatedIn done = [] :=
      allocatedIn_of_forall_mem_configureCalls fun call hcall => h ▸ List.mem_append_left _ hcall
    rw [haltBehind, hnone]
  have hrest : ∀ session', CarriesOut
      (do
        Run.report .info "node is ready" fields
        let others ← others
        return builtNode setup index :: others)
      session' calls (builtNode setup index :: built) haltBehind := by
    intro session'
    refine .bind (.report _ _ _) fun session'' _ => ?_
    exact (hothers session'').andReturn _
  refine hconfigure.bind fun session' _ => (hrest session').congr fun done call rest error _ => ?_
  have hnone : allocatedIn (configureCalls setup index) = [] :=
    allocatedIn_of_forall_mem_configureCalls fun _ h => h
  rw [haltBehind_append hnone]

/-- **Building nodes makes the canonical calls** and halts with the addresses handed out. -/
theorem provisionNodes_carriesOut (setup : NodeSetup) (start count : Nat) (session : Session) :
    CarriesOut (provisionNodes setup count (.ofNat start)) session (nodesCalls setup start count)
      ((List.range' start count).map fun i => builtNode setup (.ofNat i)) haltBehind := by
  induction count generalizing start session with
  | zero => exact .pure
  | succ count ih =>
    rw [nodesCalls_succ, List.range'_succ, List.map_cons, nodeCalls, List.cons_append]
    refine .bind (provisionNode_carriesOut _ _) fun session₁ _ => ?_
    have hothers := ih (start + 1)
    rw [UInt64.ofNat_add] at hothers
    exact (readyNode_carriesOut hothers session₁).mapError _

variable {dataset : Dataset} {nodes : UInt64} {plan : Plan} {storage : SharedStorage}

/-- What the nodes of a data center get once their bindings are known. -/
def setupFor (dataset : Dataset) (storage : SharedStorage) (bindings : List Binding) : NodeSetup :=
  ⟨dataset, storage, bindings, storage.objectStore.bind (NodeFile.filestoreConfig? · bindings)⟩

/-- **The most nodes that there is room for.** -/
def mostNodes : UInt64 := 88686269585142075

theorem bytes_nodes_le_iff :
    nodes.toNat * ProvisionedNode.bytes ≤ maxListBytes ↔ nodes ≤ mostNodes :=
  Run.bytes_le_iff (by decide) (by decide)

/-- Once the bindings are known, room is made for the nodes, and they are provisioned. -/
theorem buildNodes_eq {bindings : List Binding} (h : plan.bindings storage = .ok bindings) :
    buildNodes dataset nodes plan storage =
      (Run.reserve nodes ProvisionedNode.bytes >>= fun _ =>
        provisionNodes (setupFor dataset storage bindings) nodes.toNat 0) := by
  rw [buildNodes, h]
  rfl

/-- **Where there is room for the nodes** the calls that build them are made. -/
theorem buildNodes_carriesOut {bindings : List Binding} (h : plan.bindings storage = .ok bindings)
    (hroom : nodes ≤ mostNodes) (session : Session) :
    CarriesOut (buildNodes dataset nodes plan storage) session
      (nodesCalls (setupFor dataset storage bindings) 0 nodes.toNat)
      ((List.range nodes.toNat).map fun i =>
        builtNode (setupFor dataset storage bindings) (.ofNat i)) haltBehind := by
  rw [buildNodes_eq h, List.range_eq_range']
  refine .bind (.reserve bytes_nodes_le_iff hroom) fun session' _ => ?_
  exact provisionNodes_carriesOut _ 0 nodes.toNat session'

/-- **Where there is none** the build breaks off before any call. -/
theorem buildNodes_of_overflow {bindings : List Binding} (h : plan.bindings storage = .ok bindings)
    (hmany : mostNodes < nodes) (session : Session) :
    buildNodes dataset nodes plan storage session = (.overflow, session) := by
  rw [buildNodes_eq h]
  exact Run.bind_of_overflow (Run.reserve_of_lt bytes_nodes_le_iff hmany)

/-- Without the storage that the plan needs no node is asked for. -/
theorem buildNodes_of_missing {error : MissingObjectStore} (h : plan.bindings storage = .error error)
    (session : Session) :
    buildNodes dataset nodes plan storage session =
      (.error ⟨.formula (.missingObjectStore error), []⟩, session) := by
  rw [buildNodes, h]
  rfl

end Formula

end DatasetHosting
