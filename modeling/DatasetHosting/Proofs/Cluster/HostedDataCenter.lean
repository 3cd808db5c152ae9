import DatasetHosting.Dataset.WellKnown
import DatasetHosting.Proofs.Cluster.BuiltNode
import DatasetHosting.Proofs.Cluster.DataCenter

/-!
# Proofs/Cluster/HostedDataCenter — a data center that is hosted

A data center that is not refused is hosted exactly if the scenario lets every step through, the object store
is there if it is needed, and there is room for the nodes (`Formula.mostNodes`).  The cluster that is returned
and what the backend then holds tell the same (`Formula.IsHosted`), whatever the backend held before.
-/

namespace DatasetHosting.Formula

variable {dataset : Dataset} {nodes : UInt64} {config : StorageConfig} {minFormat : Option UInt32}
  {session : Session} {backend after : Backend} {setup : NodeSetup} {cluster : Cluster}
  {bindings : List Binding}

/-! ## When a data center is hosted, and when it breaks off -/

/-- The storage has an object store exactly if one is needed and there is a bucket. -/
theorem isSome_objectStore_storageOf :
    (storageOf backend dataset config).objectStore.isSome =
      ((Plan.ofConfig config).needsObjectStore && backend.scenario.bucket.isSome) := by
  rw [storageOf, Backend.storageFor]
  cases (Plan.ofConfig config).needsObjectStore <;> cases backend.scenario.bucket <;> rfl

/-- **There are bindings** exactly if the object store is not needed or there is a bucket. -/
theorem exists_bindings_storageOf_iff :
    (∃ bindings,
        (Plan.ofConfig config).bindings (storageOf backend dataset config) = .ok bindings) ↔
      (Plan.ofConfig config).needsObjectStore = false ∨ backend.scenario.bucket.isSome = true := by
  rw [Plan.exists_bindings_iff, isSome_objectStore_storageOf]
  cases (Plan.ofConfig config).needsObjectStore <;> simp

/-- **A run that ends in a cluster** had its bindings, and all its calls succeeded. -/
theorem calls_of_ends (h : Ends backend dataset nodes config (.ok cluster) after) :
    ∃ bindings,
      (Plan.ofConfig config).bindings (storageOf backend dataset config) = .ok bindings ∧
      backend.carryOut (storageCall dataset config ::
        buildCalls backend dataset nodes config bindings) = .ok after ∧
      cluster = hostedCluster (setupOf backend dataset config bindings) nodes := by
  cases h with
  | finished _ hbindings hcalls => exact ⟨_, hbindings, hcalls, rfl⟩

/-- …and there was room for its nodes. -/
theorem le_mostNodes_of_ends (h : Ends backend dataset nodes config (.ok cluster) after) :
    nodes ≤ mostNodes := by
  cases h with
  | finished hroom => exact hroom

/-- Where there is room for the nodes there is room for their addresses. -/
theorem not_overfull_of_le {other : Prop} (h : nodes ≤ mostNodes) :
    ¬(mostAddresses < nodes ∨ mostNodes < nodes ∧ other) := by
  have hmost : mostNodes ≤ mostAddresses := by decide
  rintro (haddresses | ⟨hnodes, -⟩)
  · exact UInt64.not_le.mpr haddresses (UInt64.le_trans h hmost)
  · exact UInt64.not_le.mpr hnodes h

/-- **A run that has room and its bindings, and whose calls all succeed,** ends in a cluster. -/
theorem ok_of_ends {result : Ending Failure Cluster} {other : Backend} (hroom : nodes ≤ mostNodes)
    (hbindings : (Plan.ofConfig config).bindings (storageOf backend dataset config) = .ok bindings)
    (hcalls : backend.carryOut (storageCall dataset config ::
      buildCalls backend dataset nodes config bindings) = .ok after)
    (h : Ends backend dataset nodes config result other) : ∃ cluster, result = .ok cluster := by
  cases h with
  | unprovisioned hstorage =>
    rw [Backend.carryOut, hstorage] at hcalls
    cases hcalls
  | unbound _ _ hmissing => cases hbindings.symm.trans hmissing
  | stopped _ hbound hsplit hdone hcall =>
    obtain rfl := Except.ok.inj (hbindings.symm.trans hbound)
    rw [hsplit] at hcalls
    cases hcalls.symm.trans (Backend.carryOut_of_error hdone hcall)
  | finished => exact ⟨_, rfl⟩
  | overflow _ hmany => exact absurd hmany (not_overfull_of_le hroom)

/-- **When a data center breaks off**: the storage is provisioned, and there is no room for the addresses, or
none for the nodes although there are bindings. -/
theorem ends_overflow_iff {result : Ending Failure Cluster}
    (h : Ends backend dataset nodes config result after) :
    result = .overflow ↔
      backend.scenario.permits (storageCall dataset config) = true ∧
        (mostAddresses < nodes ∨ mostNodes < nodes ∧
          ((Plan.ofConfig config).needsObjectStore = false ∨
            backend.scenario.bucket.isSome = true)) := by
  cases h with
  | unprovisioned hstorage =>
    refine iff_of_false (by rintro ⟨⟩) ?_
    rintro ⟨hpermits, -⟩
    rcases Backend.perform_eq_error_iff.mp hstorage with ⟨hp, -⟩ | ⟨-, hobstacle⟩
    · exact Bool.false_ne_true (hp.symm.trans hpermits)
    · cases hobstacle
  | unbound hroom _ hmissing =>
    refine iff_of_false (by rintro ⟨⟩) ?_
    rintro ⟨-, haddresses | ⟨-, hstore⟩⟩
    · exact UInt64.not_le.mpr haddresses hroom
    · obtain ⟨bindings, hbindings⟩ := exists_bindings_storageOf_iff.mpr hstore
      cases hbindings.symm.trans hmissing
  | stopped hroom | finished hroom =>
    refine iff_of_false (by rintro ⟨⟩) ?_
    rintro ⟨-, hmany⟩
    exact not_overfull_of_le hroom hmany
  | overflow hentered hmany =>
    obtain ⟨hpermits, -, -⟩ := Backend.carryOut_eq_ok_iff.mp hentered
    rw [exists_bindings_storageOf_iff] at hmany
    exact iff_of_true rfl ⟨hpermits _ List.mem_cons_self, hmany⟩

/-! ## The file store configuration -/

theorem isSome_filestore_setupFor {plan : Plan} {storage : SharedStorage}
    (h : plan.bindings storage = .ok bindings) (dataset : Dataset) :
    (setupFor dataset storage bindings).filestore.isSome = plan.needsObjectStore := by
  have hneeds := Plan.exists_bindings_iff.mp ⟨bindings, h⟩
  rw [setupFor]
  cases hstore : storage.objectStore with
  | none =>
    rw [hstore] at hneeds
    exact (hneeds.resolve_right Bool.false_ne_true).symm
  | some store => exact (NodeFile.isSome_filestoreConfig? store bindings).trans (Plan.any_bindings_eq h)

theorem name_filestore_setupFor {storage : SharedStorage} {file : NodeFile}
    (h : (setupFor dataset storage bindings).filestore = some file) :
    file.name = "filestore-config.xml" := by
  obtain ⟨store, -, hfile⟩ := Option.bind_eq_some_iff.mp h
  exact NodeFile.filestoreConfig?_name hfile

/-! ## What is hosted -/

/-- **A data center that is hosted**: the cluster that was returned, and what the backend holds, which
tell the same. -/
structure IsHosted (setup : NodeSetup) (nodes : UInt64) (plan : Plan) (before : Backend)
    (cluster : Cluster) (after : Backend) : Prop where
  /-- The cluster says what it is. -/
  kind : cluster.kind = .dataCenter ∧ cluster.datasetId = setup.dataset.id ∧ cluster.address = none
  /-- The bindings are those of the plan on the storage. -/
  bindings : plan.bindings setup.storage = .ok setup.bindings
  /-- No binding is made twice. -/
  bindings_nodup : setup.bindings.Nodup
  /-- There is a file store configuration exactly if the plan needs the object store. -/
  filestore : setup.filestore.isSome = plan.needsObjectStore ∧
    ∀ file, setup.filestore = some file → file.name = "filestore-config.xml"
  /-- There are as many nodes as were asked for. -/
  length_nodes : cluster.nodes.length = nodes.toNat
  /-- Each node is what its place says. -/
  getElem?_nodes : ∀ i < nodes.toNat, cluster.nodes[i]? = some
    ⟨.ofNat i, "dc-" ++ toString i, ⟨"dc-" ++ toString i, Backend.nodeIp (.ofNat i)⟩, setup.bindings⟩
  /-- No name is given twice. -/
  names_nodup : (cluster.nodes.map (·.name)).Nodup
  /-- No address is given twice. -/
  addresses_nodup : (cluster.nodes.map (·.address.privateIp)).Nodup
  /-- The backend holds the storage of the cluster. -/
  storage : cluster.sharedStorage = some setup.storage ∧ after.storage = cluster.sharedStorage
  /-- The backend knows each node as it was configured. -/
  state : ∀ node ∈ cluster.nodes, after.nodes.get? node.name = some (configuredState setup node)
  /-- The cluster properties of each node are four lines. -/
  properties : ∀ node ∈ cluster.nodes, ∃ state, after.nodes.get? node.name = some state ∧
    state.files.get? "cluster.properties" = some
      ("ehcache.listener.hostName = " ++ node.address.privateIp ++ "\n" ++
        "ehcache.object.port = 40011\n" ++
        "jira.node.id = node" ++ toString node.index.toNat ++ "\n" ++
        "jira.shared.home = " ++ setup.storage.sharedHome.path ++ "\n")
  /-- All other nodes are as they were. -/
  others : ∀ name, (∀ node ∈ cluster.nodes, node.name ≠ name) →
    after.nodes.get? name = before.nodes.get? name
  /-- The storage is logged, and then node after node. -/
  events : after.events = before.events ++
    .sharedStorageProvisioned setup.dataset.id plan.exportSubnet setup.storage.objectStore.isSome ::
      cluster.nodes.flatMap (nodeEvents setup)
  /-- The scenario is as it was. -/
  scenario : after.scenario = before.scenario

/-- What tells indices apart tells the nodes of a cluster apart. -/
theorem nodup_map_hostedCluster {α : Type} {field : ProvisionedNode → α}
    (hfield : ∀ i j, field (builtNode setup i) = field (builtNode setup j) → i = j)
    (nodes : UInt64) : ((hostedCluster setup nodes).nodes.map field).Nodup := by
  rw [hostedCluster, List.map_map]
  refine List.pairwise_map.mpr (List.pairwise_lt_range.imp_of_mem fun hi hj hlt hsame => ?_)
  have hsize := nodes.toNat_lt_size
  have hi := List.mem_range.mp hi
  have hj := List.mem_range.mp hj
  have hword := congrArg UInt64.toNat (hfield _ _ hsame)
  rw [UInt64.toNat_ofNat_of_lt' (by omega), UInt64.toNat_ofNat_of_lt' (by omega)] at hword
  omega

theorem mem_nodes_hostedCluster {node : ProvisionedNode} :
    node ∈ (hostedCluster setup nodes).nodes ↔
      ∃ i < nodes.toNat, builtNode setup (.ofNat i) = node := by
  simp [hostedCluster]

/-- **What the calls of a data center leave.** -/
theorem isHosted_of_carryOut
    (hbindings : (Plan.ofConfig config).bindings (storageOf backend dataset config) = .ok bindings)
    (hcalls : backend.carryOut (storageCall dataset config ::
      buildCalls backend dataset nodes config bindings) = .ok after) :
    IsHosted (setupOf backend dataset config bindings) nodes (.ofConfig config) backend
      (hostedCluster (setupOf backend dataset config bindings) nodes) after := by
  obtain ⟨-, -, rfl⟩ := Backend.carryOut_eq_ok_iff.mp hcalls
  have hsize : nodes.toNat < UInt64.size := nodes.toNat_lt_size
  have hfile : ∀ file, (setupOf backend dataset config bindings).filestore = some file →
      file.name = "filestore-config.xml" := fun _ => name_filestore_setupFor
  have hname : ∀ file, (setupOf backend dataset config bindings).filestore = some file →
      file.name ≠ "cluster.properties" := by
    intro file hsome
    rw [hfile file hsome]
    decide
  have hresources := Plan.nodup_map_resource_bindings hbindings
  have hstate : ∀ node ∈ (hostedCluster (setupOf backend dataset config bindings) nodes).nodes,
      (backend.nextAll (storageCall dataset config ::
        buildCalls backend dataset nodes config bindings)).nodes.get? node.name =
        some (configuredState (setupOf backend dataset config bindings) node) := by
    intro node hnode
    obtain ⟨i, hi, rfl⟩ := mem_nodes_hostedCluster.mp hnode
    rw [Backend.nextAll_cons, buildCalls]
    exact get?_nextAll_nodesCalls hname (by omega) (Nat.zero_le i) (by omega)
  rw [Backend.nextAll_cons, buildCalls] at hstate ⊢
  exact {
    kind := ⟨rfl, rfl, rfl⟩
    bindings := hbindings
    bindings_nodup :=
      (List.pairwise_map.mp hresources).imp fun hne hsame => hne (congrArg Binding.resource hsame)
    filestore := ⟨isSome_filestore_setupFor hbindings dataset, hfile⟩
    length_nodes := by rw [hostedCluster, List.length_map, List.length_range]
    getElem?_nodes := fun i hi => by
      rw [hostedCluster, List.getElem?_map, List.getElem?_range hi, Option.map_some, builtNode,
        nodeAddress, nodeName_ofNat (Nat.lt_trans hi hsize)]
    names_nodup := nodup_map_hostedCluster (fun _ _ => nodeName_injective) nodes
    addresses_nodup := nodup_map_hostedCluster (fun _ _ => nodeIp_injective) nodes
    storage := ⟨rfl, storage_nextAll_nodesCalls 0 nodes.toNat⟩
    state := hstate
    properties := fun node hnode =>
      ⟨_, hstate node hnode, get?_files_configuredState (setupOf backend dataset config bindings) node⟩
    others := fun name hother => by
      refine (get?_nextAll_nodesCalls_of_ne fun i _ hi => ?_).trans rfl
      exact hother _ (mem_nodes_hostedCluster.mpr ⟨i, by omega, rfl⟩)
    events := by
      rw [Backend.nextAll_events, map_event_nodesCalls, ← List.range_eq_range',
        Backend.next_events, List.append_assoc]
      rfl
    scenario := by rw [Backend.nextAll_scenario, Backend.next_scenario] }

/-- **A data center is hosted exactly if nothing fails and there is room for it**, and then the record and
the backend agree. -/
theorem provision_dataCenter_ok (hnodes : Strategy.minNodes ≤ nodes)
    (hformat : ∀ least, minFormat = some least → least ≤ dataset.format) (config : StorageConfig)
    (session : Session) :
    ((∃ cluster final,
        (Formula.mk dataset (.dataCenter nodes config minFormat)).provision session =
          (.ok cluster, final)) ↔
      (∀ call ∈ (buildSteps session.backend dataset nodes config).filterMap BuildStep.call?,
        session.backend.scenario.permits call = true) ∧
      ((Plan.ofConfig config).needsObjectStore = false ∨
        session.backend.scenario.bucket.isSome = true) ∧
      nodes ≤ mostNodes) ∧
    ∀ cluster final,
      (Formula.mk dataset (.dataCenter nodes config minFormat)).provision session =
        (.ok cluster, final) →
      ∃ bindings, IsHosted (setupOf session.backend dataset config bindings) nodes
        (.ofConfig config) session.backend cluster final.backend := by
  have hrefusal : refusal? dataset nodes minFormat = none :=
    refusal?_eq_none_iff.mpr ⟨checkFormat_eq_ok_iff.mpr hformat, UInt64.not_lt.mpr hnodes⟩
  have hends := provisionDataCenter_ends hrefusal config session
  have hcalls : ∀ cluster final, provisionDataCenter dataset nodes config minFormat session =
      (.ok cluster, final) → ∃ bindings,
        (Plan.ofConfig config).bindings (storageOf session.backend dataset config) = .ok bindings ∧
        session.backend.carryOut (storageCall dataset config ::
          buildCalls session.backend dataset nodes config bindings) = .ok final.backend ∧
        cluster = hostedCluster (setupOf session.backend dataset config bindings) nodes ∧
        nodes ≤ mostNodes := by
    intro cluster final hok
    rw [hok] at hends
    obtain ⟨bindings, hbindings, hall, hcluster⟩ := calls_of_ends hends
    exact ⟨bindings, hbindings, hall, hcluster, le_mostNodes_of_ends hends⟩
  refine ⟨⟨?_, ?_⟩, ?_⟩
  · rintro ⟨cluster, final, hok⟩
    obtain ⟨bindings, hbindings, hall, -, hroom⟩ := hcalls cluster final hok
    rw [filterMap_call?_buildSteps hbindings]
    exact ⟨(Backend.carryOut_eq_ok_iff.mp hall).1,
      exists_bindings_storageOf_iff.mp ⟨bindings, hbindings⟩, hroom⟩
  · rintro ⟨hpermits, hstore, hroom⟩
    obtain ⟨bindings, hbindings⟩ := exists_bindings_storageOf_iff.mpr hstore
    rw [filterMap_call?_buildSteps hbindings] at hpermits
    have hall := Backend.carryOut_eq_ok_iff.mpr
      ⟨hpermits, unobstructed_calls hbindings nodes, rfl⟩
    obtain ⟨cluster, hcluster⟩ := ok_of_ends hroom hbindings hall hends
    exact ⟨cluster, _, Prod.ext hcluster rfl⟩
  · intro cluster final hok
    obtain ⟨bindings, hbindings, hall, rfl, -⟩ := hcalls cluster final hok
    exact ⟨bindings, isHosted_of_carryOut hbindings hall⟩

/-- Where nothing fails three nodes are hosted, with their attachments in the object store. -/
theorem provision_formatEight_hosted :
    Strategy.minNodes ≤ 3 ∧ (∀ least, some 8 = some least → least ≤ Dataset.formatEight.format) ∧
      ∃ cluster final bindings,
        (Formula.mk Dataset.formatEight
            (.dataCenter 3 { attachmentsInS3 := true } (some 8))).provision ⟨{}, []⟩ =
          (.ok cluster, final) ∧
        IsHosted (setupOf {} Dataset.formatEight { attachmentsInS3 := true } bindings) 3
          (.ofConfig { attachmentsInS3 := true }) {} cluster final.backend := by
  have hnodes : Strategy.minNodes ≤ 3 := by decide
  have hformat : ∀ least, some 8 = some least → least ≤ Dataset.formatEight.format := by
    intro least h
    obtain rfl := Option.some.inj h
    decide
  obtain ⟨hiff, hhosted⟩ :=
    provision_dataCenter_ok hnodes hformat { attachmentsInS3 := true } ⟨{}, []⟩
  obtain ⟨cluster, final, hok⟩ := hiff.mpr ⟨fun _ _ => rfl, .inr rfl, by decide⟩
  obtain ⟨bindings, hbindings⟩ := hhosted cluster final hok
  exact ⟨hnodes, hformat, cluster, final, bindings, hok, hbindings⟩

/-- **Nothing fails, and still nothing is hosted**: there is no room for that many nodes. -/
theorem provision_formatEight_without_room :
    let session : Session := ⟨{}, []⟩
    Strategy.minNodes ≤ 200000000000000000 ∧
      (∀ call ∈ (buildSteps session.backend .formatEight 200000000000000000 {}).filterMap
        BuildStep.call?, session.backend.scenario.permits call = true) ∧
      (Plan.ofConfig {}).needsObjectStore = false ∧
      ¬∃ cluster final,
        (Formula.mk .formatEight (.dataCenter 200000000000000000 {} none)).provision session =
          (.ok cluster, final) := by
  intro session
  refine ⟨by decide, fun _ _ => rfl, rfl, ?_⟩
  rintro ⟨cluster, final, hok⟩
  have hrefusal : refusal? .formatEight 200000000000000000 none = none := rfl
  have hends := provisionDataCenter_ends hrefusal {} session
  change provisionDataCenter .formatEight 200000000000000000 {} none session = _ at hok
  rw [hok] at hends
  exact absurd (le_mostNodes_of_ends hends) (by decide)

end DatasetHosting.Formula
