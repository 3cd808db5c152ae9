import DatasetHosting.Proofs.Cluster.Readiness
import DatasetHosting.Proofs.Text.Whole

/-!
# Proofs/Cluster/BuiltNode — what building leaves of each node

The calls for one node set everything that is known of it, whatever was known before
(`Formula.onNodeAll_nodeCalls`), and log one event each (`Formula.map_event_nodeCalls`).  Different indices
give different names and addresses, so the nodes of a build do not disturb each other
(`Formula.get?_nextAll_nodesCalls`).
-/

namespace DatasetHosting.Formula

variable {setup : NodeSetup} {backend : Backend} {index : UInt64}

/-! ## One node -/

/-- **What is known of a node that has been built**: it mounts the shared home, has its bindings and its
files, and is not released. -/
def configuredState (setup : NodeSetup) (node : ProvisionedNode) : NodeState where
  mounted := some setup.storage.sharedHome
  bindings := node.bindings
  files :=
    ("cluster.properties", (NodeFile.clusterProperties node.index node.address.privateIp
        setup.storage.sharedHome.path).contents) ::
      (setup.filestore.map fun file => (file.name, file.contents)).toList
  released := false

/-- The cluster properties of a node that has been built, line by line. -/
theorem get?_files_configuredState (setup : NodeSetup) (node : ProvisionedNode) :
    (configuredState setup node).files.get? "cluster.properties" = some
      ("ehcache.listener.hostName = " ++ node.address.privateIp ++ "\n" ++
        "ehcache.object.port = 40011\n" ++
        "jira.node.id = node" ++ toString node.index.toNat ++ "\n" ++
        "jira.shared.home = " ++ setup.storage.sharedHome.path ++ "\n") := by
  have hport : "ehcache.object.port = 40011\n" = "ehcache.object.port = 40011" ++ "\n" := rfl
  rw [configuredState, Register.get?_cons, if_pos rfl, hport]
  simp only [NodeFile.clusterProperties, NodeFile.lines, List.map_cons, List.map_nil,
    String.join_cons, String.join_nil, String.append_empty, String.append_assoc]

/-- **What building a node logs.** -/
def nodeEvents (setup : NodeSetup) (node : ProvisionedNode) : List Event :=
  .nodeProvisioned node.name node.address.privateIp ::
    .sharedHomeMounted node.name setup.storage.sharedHome.ip ::
      (node.bindings.map (.resourceBound node.name) ++
        .fileWritten node.name "cluster.properties" ::
          (setup.filestore.map fun file => .fileWritten node.name file.name).toList)

theorem map_event_nodeCalls (backend : Backend) (setup : NodeSetup) (index : UInt64) :
    (nodeCalls setup index).map backend.event = nodeEvents setup (builtNode setup index) := by
  rw [nodeCalls, configureCalls, nodeEvents]
  simp only [List.map_cons, List.map_append, List.map_map]
  cases setup.filestore <;> rfl

theorem onNodeAll_bindResource (address : NodeAddress) (bindings : List Binding)
    (state : NodeState) :
    onNodeAll (bindings.map (.bindResource address)) (some state) =
      some { state with bindings := state.bindings ++ bindings } := by
  induction bindings generalizing state with
  | nil => rw [List.append_nil]; rfl
  | cons binding rest ih =>
    rw [List.map_cons, onNodeAll_cons, Call.onNode, Option.map_some, ih, List.append_assoc]
    rfl

/-- The contents of a file that was not there. -/
theorem fileAfter_none (file : NodeFile) : Backend.fileAfter none file = file.contents := by
  rw [Backend.fileAfter]
  cases file.append with
  | false => rfl
  | true => exact String.empty_append

/-- A file that is written first, and another one behind it. -/
theorem files_of_writes (first : NodeFile) (second : Option NodeFile)
    (hname : ∀ file, second = some file → file.name ≠ first.name) (address : NodeAddress)
    (state : NodeState) (hfiles : state.files = []) :
    onNodeAll (.writeNodeFile address first :: (second.map (.writeNodeFile address)).toList)
        (some state) =
      some { state with
        files := (first.name, first.contents) ::
          (second.map fun file => (file.name, file.contents)).toList } := by
  have hfirst : (Call.writeNodeFile address first).onNode (some state) =
      some { state with files := [(first.name, first.contents)] } := by
    rw [Call.onNode, Option.map_some, hfiles, Register.get?_nil, fileAfter_none]
    rfl
  rw [onNodeAll_cons, hfirst]
  rcases second with - | file
  · rfl
  · have hne : file.name ≠ first.name := hname file rfl
    have hnew : Register.get? [(first.name, first.contents)] file.name = none := by
      rw [Register.get?_cons, if_neg hne]
      rfl
    have hset : Register.set [(first.name, first.contents)] file.name file.contents =
        [(first.name, first.contents), (file.name, file.contents)] := by
      rw [Register.set, if_neg hne]
      rfl
    rw [Option.map_some, Option.toList_some, onNodeAll_cons, Call.onNode, Option.map_some, hnew,
      fileAfter_none, hset]
    rfl

/-- **Building a node decides all that is known of it.** -/
theorem onNodeAll_nodeCalls
    (hname : ∀ file, setup.filestore = some file → file.name ≠ "cluster.properties")
    (index : UInt64) (known : Option NodeState) :
    onNodeAll (nodeCalls setup index) known =
      some (configuredState setup (builtNode setup index)) := by
  let mounted : NodeState := { mounted := some setup.storage.sharedHome }
  change onNodeAll (_ ++ _) (some mounted) = _
  rw [onNodeAll_append, onNodeAll_bindResource]
  exact files_of_writes _ _ hname _ _ rfl

/-! ## Different nodes -/

theorem nodeName_ofNat {i : Nat} (h : i < UInt64.size) : nodeName (.ofNat i) = "dc-" ++ toString i := by
  rw [nodeName, UInt64.toNat_ofNat_of_lt' h]

/-- Different indices give different names. -/
theorem nodeName_injective {i j : UInt64} (h : nodeName i = nodeName j) : i = j :=
  UInt64.toNat_inj.mp (Text.toString_injective ((String.append_right_inj _).mp h))

/-- …and different addresses, in whatever word the offset ends. -/
theorem nodeIp_injective {i j : UInt64} (h : Backend.nodeIp i = Backend.nodeIp j) : i = j := by
  have hsum : 10 + i = 10 + j :=
    UInt64.toNat_inj.mp (Text.toString_injective ((String.append_right_inj _).mp h))
  exact (UInt64.add_right_inj 10).mp hsum

/-- Different numbers that are words give different names. -/
theorem nodeName_ofNat_ne {i j : Nat} (hi : i < UInt64.size) (hj : j < UInt64.size) (h : i ≠ j) :
    nodeName (.ofNat i) ≠ nodeName (.ofNat j) := by
  intro hname
  have hword : (UInt64.ofNat i).toNat = (UInt64.ofNat j).toNat :=
    congrArg UInt64.toNat (nodeName_injective hname)
  rw [UInt64.toNat_ofNat_of_lt' hi, UInt64.toNat_ofNat_of_lt' hj] at hword
  exact h hword

/-! ## All nodes of a build -/

theorem map_event_nodesCalls (backend : Backend) (setup : NodeSetup) (start count : Nat) :
    (nodesCalls setup start count).map backend.event =
      ((List.range' start count).map fun i => builtNode setup (.ofNat i)).flatMap
        (nodeEvents setup) := by
  rw [nodesCalls, List.map_flatMap, List.flatMap_map]
  simp only [map_event_nodeCalls]

/-- The calls of a build are about its nodes. -/
theorem node?_of_mem_nodesCalls {start count : Nat} {call : Call}
    (h : call ∈ nodesCalls setup start count) :
    ∃ i, start ≤ i ∧ i < start + count ∧ call.node? = some (nodeName (.ofNat i)) := by
  obtain ⟨i, hi, hcall⟩ := List.mem_flatMap.mp h
  obtain ⟨hfrom, hto⟩ := List.mem_range'_1.mp hi
  exact ⟨i, hfrom, hto, node?_of_mem_nodeCalls call hcall⟩

theorem storage_nextAll_nodesCalls (start count : Nat) :
    (backend.nextAll (nodesCalls setup start count)).storage = backend.storage := by
  refine Backend.nextAll_storage fun call hcall => ?_
  obtain ⟨i, -, -, hnode⟩ := node?_of_mem_nodesCalls hcall
  rw [hnode]
  rfl

/-- **A build passes all other nodes by.** -/
theorem get?_nextAll_nodesCalls_of_ne {start count : Nat} {name : String}
    (h : ∀ i, start ≤ i → i < start + count → nodeName (.ofNat i) ≠ name) :
    (backend.nextAll (nodesCalls setup start count)).nodes.get? name = backend.nodes.get? name := by
  refine Backend.nextAll_get?_of_forall_ne fun call hcall hsame => ?_
  obtain ⟨i, hfrom, hto, hnode⟩ := node?_of_mem_nodesCalls hcall
  exact h i hfrom hto (Option.some.inj (hnode.symm.trans hsame))

/-- **A build decides all that is known of its nodes.** -/
theorem get?_nextAll_nodesCalls
    (hname : ∀ file, setup.filestore = some file → file.name ≠ "cluster.properties")
    {start count i : Nat} (hsize : start + count ≤ UInt64.size) (hfrom : start ≤ i)
    (hto : i < start + count) :
    (backend.nextAll (nodesCalls setup start count)).nodes.get? (nodeName (.ofNat i)) =
      some (configuredState setup (builtNode setup (.ofNat i))) := by
  induction count generalizing start backend with
  | zero => omega
  | succ count ih =>
    rw [nodesCalls_succ, Backend.nextAll_append]
    by_cases hfirst : start = i
    · subst hfirst
      have hothers : ∀ j, start + 1 ≤ j → j < start + 1 + count →
          nodeName (.ofNat j) ≠ nodeName (.ofNat start) :=
        fun j hj hj' => nodeName_ofNat_ne (by omega) (by omega) (by omega)
      rw [get?_nextAll_nodesCalls_of_ne hothers,
        Backend.nextAll_get?_of_forall_eq node?_of_mem_nodeCalls]
      exact onNodeAll_nodeCalls hname _ _
    · exact ih (by omega) (by omega) (by omega)

end DatasetHosting.Formula
