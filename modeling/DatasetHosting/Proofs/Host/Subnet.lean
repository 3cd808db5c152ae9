import DatasetHosting.Proofs.Cluster.HostedDataCenter
import DatasetHosting.Proofs.Host.Agreement

/-!
# Proofs/Host/Subnet — which data centers fit their subnet

The nodes of a data center are numbered from one address of its subnet on, and nothing on the way looks at
how many there are.  The address of a node is an address of the subnet as long as its last number has eight
bits (`liesIn_nodeIp_iff`), which makes room for 246 nodes and no more
(`Formula.isAddressed_iff_le_of_provision`).
-/

namespace DatasetHosting

open DatasetHosting.Text

variable {dataset : Dataset} {nodes : UInt64} {config : StorageConfig} {minFormat : Option UInt32}
  {session : Session} {cluster : Cluster} {setup : NodeSetup}

/-! ## Addresses and subnets -/

/-- One of the four numbers of an address: 0 to 255 without zeros in front. -/
def readOctet? (cs : List Char) : Option Nat :=
  (readNat? cs).filter fun n => n ≤ 255 && Nat.toDigits 10 n == cs

/-- An address with dots between its four numbers, as one number of 32 bits. -/
def readAddress? (cs : List Char) : Option Nat :=
  match (cs.splitOn '.').map readOctet? with
  | [some a, some b, some c, some d] => some (((a * 256 + b) * 256 + c) * 256 + d)
  | _ => none

/-- The addresses that begin with the same bits. -/
structure Subnet where
  /-- One of them. -/
  base : Nat
  /-- How many bits are the same. -/
  length : Nat
  deriving DecidableEq, Repr

/-- A subnet as an address and, behind a slash, a number of bits. -/
def readSubnet? (cs : List Char) : Option Subnet :=
  match cs.splitOn '/' with
  | [base, length] =>
    match readAddress? base, readNat? length with
    | some base, some length => if length ≤ 32 then some ⟨base, length⟩ else none
    | _, _ => none
  | _ => none

/-- Whether the address is in the subnet. -/
def Subnet.has (subnet : Subnet) (address : Nat) : Bool :=
  address / 2 ^ (32 - subnet.length) == subnet.base / 2 ^ (32 - subnet.length)

/-- **The text is an address in the subnet** of the other text. -/
def LiesIn (subnet address : String) : Prop :=
  (readSubnet? subnet.toList).any (fun network =>
    (readAddress? address.toList).any network.has) = true

instance (subnet address : String) : Decidable (LiesIn subnet address) :=
  inferInstanceAs (Decidable (_ = true))

/-- **Each node of the cluster has an address of its own** in the subnet of the plan, and none has that of the
shared home. -/
structure Cluster.IsAddressed (plan : Plan) (cluster : Cluster) : Prop where
  /-- The addresses are in the subnet. -/
  inside : ∀ node ∈ cluster.nodes, LiesIn plan.exportSubnet node.address.privateIp
  /-- None is that of the shared home. -/
  apart : ∀ storage, cluster.sharedStorage = some storage → ∀ node ∈ cluster.nodes,
    node.address.privateIp ≠ storage.sharedHome.ip
  /-- No two are the same. -/
  distinct : (cluster.nodes.map (·.address.privateIp)).Nodup

/-! ## The address of a node -/

theorem readOctet?_toDigits (n : Nat) :
    readOctet? (Nat.toDigits 10 n) = if n ≤ 255 then some n else none := by
  rw [readOctet?, readNat?_toDigits, Option.filter_some]
  simp

/-- The four numbers of an address of nodes. -/
theorem splitOn_address (n : Nat) :
    ("10.0.0." ++ toString n).toList.splitOn '.' = [10, 0, 0, n].map (Nat.toDigits 10) := by
  have hten : Nat.toDigits 10 10 = ['1', '0'] := by decide +kernel
  have hjoined : ("10.0.0." ++ toString n).toList =
      ['.'].intercalate ([10, 0, 0, n].map (Nat.toDigits 10)) := by
    rw [String.toList_append, toList_toString]
    simp [List.intercalate, hten]
  have hdots : ∀ piece ∈ [10, 0, 0, n].map (Nat.toDigits 10), '.' ∉ piece := by
    intro piece hpiece hdot
    obtain ⟨number, -, rfl⟩ := List.mem_map.mp hpiece
    exact absurd (isDigit_of_mem_toDigits hdot) (by decide)
  rw [hjoined, List.splitOn_intercalate '.' hdots (List.cons_ne_nil _ _)]

theorem readAddress?_of_octet (n : Nat) :
    readAddress? ("10.0.0." ++ toString n).toList =
      if n ≤ 255 then some (10 * 256 ^ 3 + n) else none := by
  rw [readAddress?, splitOn_address]
  simp only [List.map_cons, List.map_nil, readOctet?_toDigits]
  by_cases h : n ≤ 255 <;> simp [h]

/-- **An address of nodes lies in their subnet** exactly if its last number has eight bits. -/
theorem liesIn_exportSubnet_iff (config : StorageConfig) (n : Nat) :
    LiesIn (Plan.ofConfig config).exportSubnet ("10.0.0." ++ toString n) ↔ n ≤ 255 := by
  have hsubnet : readSubnet? "10.0.0.0/24".toList = some ⟨10 * 256 ^ 3, 24⟩ := by decide +kernel
  rw [LiesIn, readAddress?_of_octet, Plan.ofConfig, hsubnet]
  by_cases h : n ≤ 255
  · simp [h, Subnet.has]
    omega
  · simp [h]

/-- Where the sum stays in the word the address ends in it. -/
theorem nodeIp_ofNat {i : Nat} (h : 10 + i < UInt64.size) :
    Backend.nodeIp (.ofNat i) = "10.0.0." ++ toString (10 + i) := by
  have hten : (10 : UInt64).toNat = 10 := rfl
  have hword : (10 + UInt64.ofNat i).toNat = 10 + i := by
    rw [UInt64.toNat_add, UInt64.toNat_ofNat_of_lt' (by omega), hten]
    exact Nat.mod_eq_of_lt h
  rw [Backend.nodeIp, hword]

/-! ## The nodes of a data center -/

namespace Formula

/-- **There is room for 246 nodes.**  One more would have 256 for the last number of its address. -/
theorem isAddressed_hostedCluster_iff (config : StorageConfig)
    (hhome : setup.storage.sharedHome.ip = Backend.sharedHomeIp) :
    (hostedCluster setup nodes).IsAddressed (.ofConfig config) ↔ nodes ≤ 246 := by
  have hlimit : (246 : UInt64).toNat = 246 := rfl
  rw [UInt64.le_iff_toNat_le, hlimit]
  constructor
  · intro h
    refine Nat.le_of_not_lt fun hmany => ?_
    have hnode : builtNode setup (.ofNat 246) ∈ (hostedCluster setup nodes).nodes :=
      mem_nodes_hostedCluster.mpr ⟨246, by omega, rfl⟩
    have hoctet := (liesIn_exportSubnet_iff config 256).mp (h.inside _ hnode)
    omega
  · intro hfew
    have hip : ∀ i < nodes.toNat,
        (builtNode setup (.ofNat i)).address.privateIp = "10.0.0." ++ toString (10 + i) := by
      intro i hi
      have hsize : 10 + i < UInt64.size := by
        have : (256 : Nat) < UInt64.size := by decide
        omega
      exact nodeIp_ofNat hsize
    refine ⟨fun node hnode => ?_, fun storage hstorage node hnode hsame => ?_,
      nodup_map_hostedCluster (fun _ _ => nodeIp_injective) nodes⟩
    · obtain ⟨i, hi, rfl⟩ := mem_nodes_hostedCluster.mp hnode
      rw [hip i hi, liesIn_exportSubnet_iff]
      omega
    · obtain ⟨i, hi, rfl⟩ := mem_nodes_hostedCluster.mp hnode
      obtain rfl := Option.some.inj hstorage
      have hfour : Backend.sharedHomeIp = "10.0.0." ++ toString 4 := rfl
      rw [hip i hi, hhome, hfour] at hsame
      have hnumber := toString_injective ((String.append_right_inj _).mp hsame)
      omega

/-- A formula that makes a cluster was not refused. -/
theorem objection?_eq_none_of_ok {formula : Formula}
    (h : (formula.provision session).1 = .ok cluster) : formula.objection? = none := by
  cases hobjection : formula.objection? with
  | none => rfl
  | some error =>
    rw [provision_of_objection hobjection] at h
    cases h

/-- A data center that is hosted is the one that its bindings make. -/
theorem eq_hostedCluster_of_provision (h :
      ((Formula.mk dataset (.dataCenter nodes config minFormat)).provision session).1 = .ok cluster) :
    ∃ bindings, cluster = hostedCluster (setupOf session.backend dataset config bindings) nodes := by
  have hends := provision_concludes (objection?_eq_none_of_ok h) session
  rw [h] at hends
  cases hends with
  | dataCenter hends =>
    obtain ⟨bindings, -, -, hcluster⟩ := calls_of_ends hends
    exact ⟨bindings, hcluster⟩

/-- Where nothing fails, no object store is needed and there is room a data center is hosted. -/
theorem exists_cluster_of_permits (session : Session)
    (hrefusal : refusal? dataset nodes minFormat = none) (hroom : nodes ≤ mostNodes)
    (hstore : (Plan.ofConfig config).needsObjectStore = false)
    (hpermits : ∀ call, session.backend.scenario.permits call = true) :
    ∃ cluster,
      ((Formula.mk dataset (.dataCenter nodes config minFormat)).provision session).1 = .ok cluster := by
  obtain ⟨bindings, hbindings⟩ := exists_bindings_storageOf_iff.mpr (.inl hstore)
  have hcalls := Backend.carryOut_eq_ok_iff.mpr
    ⟨fun call _ => hpermits call, unobstructed_calls hbindings nodes, rfl⟩
  exact ok_of_ends hroom hbindings hcalls (provisionDataCenter_ends hrefusal config session)

/-- **A data center that is hosted is in its subnet** exactly if it has at most 246 nodes, whatever the
backend held before. -/
theorem isAddressed_iff_le_of_provision (h :
      ((Formula.mk dataset (.dataCenter nodes config minFormat)).provision session).1 = .ok cluster) :
    cluster.IsAddressed (.ofConfig config) ↔ nodes ≤ 246 := by
  obtain ⟨bindings, rfl⟩ := eq_hostedCluster_of_provision h
  exact isAddressed_hostedCluster_iff config rfl

/-- 246 nodes fill the subnet to its end. -/
theorem isAddressed_full_subnet :
    ∃ cluster,
      ((Formula.mk .formatEight (.dataCenter 246 {} (some 8))).provision ⟨{}, []⟩).1 = .ok cluster ∧
        cluster.IsAddressed (.ofConfig {}) := by
  have hrefusal : refusal? .formatEight 246 (some 8) = none := rfl
  have hstore : (Plan.ofConfig {}).needsObjectStore = false := rfl
  obtain ⟨cluster, h⟩ := exists_cluster_of_permits ⟨{}, []⟩ hrefusal (by decide) hstore fun _ => rfl
  exact ⟨cluster, h, (isAddressed_iff_le_of_provision h).mpr (by decide)⟩

end Formula

/-- **A valid catalogue can ask for more nodes than there is room for**, and is served. -/
theorem Catalogue.valid_without_room :
    let catalogue : Catalogue := ⟨"large", none, [⟨"all", none, .dataCenter 247 {} none⟩]⟩
    catalogue.validate = .ok () ∧ ∃ formula cluster,
      catalogue.host .formatEight = .ok formula ∧ (formula.provision ⟨{}, []⟩).1 = .ok cluster ∧
        (∃ node ∈ cluster.nodes, node.address.privateIp = "10.0.0.256") ∧
        ¬cluster.IsAddressed (.ofConfig {}) := by
  intro catalogue
  have hres : catalogue.resolve .formatEight = .ok ⟨"all", .dataCenter 247 {} none,
      ⟨"large", Dataset.formatEight.id, [.evaluated "all" none true], .success⟩⟩ := rfl
  have hrefusal : Formula.refusal? .formatEight 247 none = none := rfl
  have hstore : (Plan.ofConfig {}).needsObjectStore = false := rfl
  obtain ⟨cluster, h⟩ :=
    Formula.exists_cluster_of_permits ⟨{}, []⟩ hrefusal (by decide) hstore fun _ => rfl
  refine ⟨rfl, _, cluster, host_of_ok hres, h, ?_⟩
  obtain ⟨bindings, rfl⟩ := Formula.eq_hostedCluster_of_provision h
  refine ⟨⟨_, Formula.mem_nodes_hostedCluster.mpr ⟨246, by decide, rfl⟩, rfl⟩, fun haddressed => ?_⟩
  exact absurd ((Formula.isAddressed_hostedCluster_iff {} rfl).mp haddressed) (by decide)

end DatasetHosting
