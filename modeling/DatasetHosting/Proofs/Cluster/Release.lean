import Mathlib.Data.List.Nodup
import DatasetHosting.Proofs.Cluster.History
import DatasetHosting.Proofs.Cluster.HostedDataCenter
import DatasetHosting.Proofs.Cluster.Lifecycle

/-!
# Proofs/Cluster/Release — no storage is freed under a live node

A cluster is released node after node, and its storage last.  As the backend knows every node that hosting
has handed out, whatever is done to it afterwards (`Cluster.Stands`), only the scenario can stop a release,
and what is left behind is told by the node that it stops at (`Cluster.Releases`).
-/

namespace DatasetHosting

variable {backend before after : Backend} {session : Session} {cluster : Cluster}
  {nodes gone : List ProvisionedNode}

/-! ## Clusters that stand -/

/-- **The backend knows the nodes of the cluster**, and no two of them share a name. -/
structure Cluster.Stands (cluster : Cluster) (backend : Backend) : Prop where
  known : backend.Knows (cluster.nodes.map (·.address))
  distinct : (cluster.nodes.map (·.address.name)).Nodup

/-- A cluster that is hosted stands. -/
theorem Formula.stands_of_concludes {dataset : Dataset} {strategy : Strategy}
    (h : Concludes backend dataset strategy (.ok cluster) after) : cluster.Stands after := by
  cases h with
  | standalone hcall =>
    obtain ⟨-, -, rfl⟩ := Backend.carryOut_eq_ok_iff.mp hcall
    exact ⟨backend.knows_allocatedIn [standaloneCall], List.nodup_singleton _⟩
  | dataCenter hends =>
    obtain ⟨bindings, -, hcalls, rfl⟩ := calls_of_ends hends
    obtain ⟨-, -, rfl⟩ := Backend.carryOut_eq_ok_iff.mp hcalls
    exact ⟨allocatedIn_buildCalls ▸ backend.knows_allocatedIn _,
      nodup_map_hostedCluster (fun _ _ => nodeName_injective) _⟩
  | external => exact ⟨fun _ hnone => absurd hnone List.not_mem_nil, List.nodup_nil⟩

theorem Formula.stands_of_provision {formula : Formula} {hosted : Session}
    (h : formula.provision session = (.ok cluster, hosted)) : cluster.Stands hosted.backend := by
  cases hobjection : formula.objection? with
  | some error => cases (provision_of_objection hobjection session).symm.trans h
  | none =>
    have hends := provision_concludes hobjection session
    rw [h] at hends
    exact stands_of_concludes hends

/-- **A cluster that stands goes on to**, whatever is done to the backend. -/
theorem Cluster.Stands.stepAll (h : cluster.Stands backend) (steps : List Step) :
    cluster.Stands (backend.stepAll steps) := by
  refine ⟨Backend.stepAll_of_invariant h.known (fun earlier step hknown => ?_) steps, h.distinct⟩
  rcases earlier.step_cases step with ⟨-, hnodes, -⟩ | ⟨call, -, -, -, hnext⟩
  · intro address haddress
    rw [hnodes]
    exact hknown address haddress
  · rw [hnext]
    exact hknown.next call

/-! ## Releasing nodes -/

/-- **What releases of nodes leave of a backend.** -/
structure Freed (before : Backend) (gone : List ProvisionedNode) (after : Backend) : Prop where
  /-- A released node is marked as such and otherwise as it was. -/
  released : ∀ node ∈ gone, ∃ state, before.nodes.get? node.address.name = some state ∧
    after.nodes.get? node.address.name = some { state with released := true }
  /-- All other nodes are as they were. -/
  kept : ∀ name, (∀ node ∈ gone, node.address.name ≠ name) →
    after.nodes.get? name = before.nodes.get? name
  /-- The storage is as it was. -/
  storage : after.storage = before.storage
  /-- The releases are logged in order, and nothing else. -/
  events : after.events = before.events ++ gone.map (.nodeReleased ·.address.name)
  /-- The scenario is as it was. -/
  scenario : after.scenario = before.scenario

theorem freed_nextAll (hknown : backend.Knows (gone.map (·.address))) :
    Freed backend gone (backend.nextAll ((gone.map (·.address)).map .releaseNode)) where
  released node hnode := by
    have haddress := List.mem_map_of_mem (f := (·.address)) hnode
    obtain ⟨state, hstate⟩ := Option.isSome_iff_exists.mp (hknown _ haddress)
    exact ⟨state, hstate, Backend.get?_nextAll_releaseNode haddress hstate⟩
  kept name hname := Backend.get?_nextAll_releaseNode_of_ne (List.forall_mem_map.mpr hname)
  storage := backend.storage_nextAll_releaseNode _
  events := by
    rw [Backend.nextAll_events, List.map_map, List.map_map]
    rfl
  scenario := Backend.nextAll_scenario _ _

namespace Cluster

/-- **Known nodes are released in order, up to the first whose release the scenario stops.**  They stand in the
way of no release, so that the call that fails is one that the scenario stops. -/
theorem releaseNodes_ends (hknown : session.backend.Knows (nodes.map (·.address))) :
    (∃ freed, releaseNodes nodes session = (.ok (), freed) ∧
      (∀ node ∈ nodes, session.backend.scenario.permits (.releaseNode node.address) = true) ∧
      Freed session.backend nodes freed.backend) ∨
    ∃ done node rest freed, nodes = done ++ node :: rest ∧
      releaseNodes nodes session =
        (.error (.backend (.injected .releaseNode node.address.name)), freed) ∧
      (∀ earlier ∈ done, session.backend.scenario.permits (.releaseNode earlier.address) = true) ∧
      session.backend.scenario.permits (.releaseNode node.address) = false ∧
      Freed session.backend done freed.backend := by
  cases releaseNodes_carriesOut nodes session with
  | finished freed hrun hcalls =>
    obtain ⟨hpermits, -, hfreed⟩ := Backend.carryOut_eq_ok_iff.mp hcalls
    refine .inl ⟨freed, hrun, ?_, hfreed ▸ freed_nextAll hknown⟩
    exact List.forall_mem_map.mp (List.forall_mem_map.mp hpermits)
  | stopped done call rest error freed hcalls hdone hcall hrun =>
    have hfree : session.backend.Unobstructed (done ++ call :: rest) :=
      hcalls ▸ hknown.unobstructed fun _ hmem => List.mem_append_left _ hmem
    obtain ⟨hstops, rfl⟩ := Backend.error_of_unobstructed hfree hdone hcall
    obtain ⟨hpermits, -, hfreed⟩ := Backend.carryOut_eq_ok_iff.mp hdone
    rw [List.map_map] at hcalls
    obtain ⟨done, behind, rfl, rfl, hbehind⟩ := List.map_eq_append_iff.mp hcalls
    obtain ⟨node, rest, rfl, rfl, rfl⟩ := List.map_eq_cons_iff.mp hbehind
    rw [← List.map_map] at hfreed
    refine .inr ⟨done, node, rest, freed, rfl, hrun, List.forall_mem_map.mp hpermits, hstops, ?_⟩
    refine hfreed ▸ freed_nextAll fun address haddress => hknown address ?_
    exact List.map_append ▸ List.mem_append_left _ haddress

/-! ## Releasing a cluster -/

/-- **How the release of a cluster ends**: its result, and what it leaves of the backend. -/
inductive Releases (cluster : Cluster) (before : Backend) : Ending Failure Unit → Backend → Prop where
  /-- The scenario stops the release of a node behind nodes that are released.  That node, those behind
  it and the storage are as they were. -/
  | stopped {done rest : List ProvisionedNode} {node : ProvisionedNode} {after : Backend}
      (hsplit : cluster.nodes = done ++ node :: rest)
      (hpermits : ∀ earlier ∈ done, before.scenario.permits (.releaseNode earlier.address) = true)
      (hstops : before.scenario.permits (.releaseNode node.address) = false)
      (hfreed : Freed before done after)
      (hkept : ∀ later ∈ node :: rest,
        after.nodes.get? later.address.name = before.nodes.get? later.address.name) :
      Releases cluster before (.error (.backend (.injected .releaseNode node.address.name))) after
  /-- All nodes are released, and there is no storage to release. -/
  | withoutStorage {after : Backend} (hstorage : cluster.sharedStorage = none)
      (hpermits : ∀ node ∈ cluster.nodes,
        before.scenario.permits (.releaseNode node.address) = true)
      (hfreed : Freed before cluster.nodes after) : Releases cluster before (.ok ()) after
  /-- All nodes are released, and the scenario stops the release of the storage, which stays. -/
  | storageKept {after : Backend} (hstorage : cluster.sharedStorage.isSome = true)
      (hpermits : ∀ node ∈ cluster.nodes,
        before.scenario.permits (.releaseNode node.address) = true)
      (hstops : before.scenario.permits .releaseSharedStorage = false)
      (hfreed : Freed before cluster.nodes after) :
      Releases cluster before
        (.error (.backend (.injected .releaseSharedStorage Backend.sharedHomeIp))) after
  /-- All nodes are released, and then the storage. -/
  | finished {freed after : Backend} (hstorage : cluster.sharedStorage.isSome = true)
      (hpermits : ∀ node ∈ cluster.nodes,
        before.scenario.permits (.releaseNode node.address) = true)
      (hreleases : before.scenario.permits .releaseSharedStorage = true)
      (hfreed : Freed before cluster.nodes freed)
      (hafter : after =
        { freed with storage := none, events := freed.events ++ [.sharedStorageReleased] }) :
      Releases cluster before (.ok ()) after

/-- Behind the nodes comes one call, for the storage. -/
theorem release_behind_nodes {freed : Session} (hsome : cluster.sharedStorage.isSome = true)
    (hrun : releaseNodes cluster.nodes session = (.ok (), freed)) :
    ∃ last : Run Unit, cluster.release session = last freed ∧
      CarriesOut last freed [.releaseSharedStorage] () fun _ error => .backend error := by
  rw [release, Run.bind_of_ok hrun, if_pos hsome]
  exact ⟨_, rfl, .callThen rfl fun _ => .report _ _ _⟩

/-- Nodes at different places of a cluster that stands have different names. -/
theorem Stands.name_ne_of_split {done behind : List ProvisionedNode} (h : cluster.Stands backend)
    (hsplit : cluster.nodes = done ++ behind) {earlier later : ProvisionedNode} (hearlier : earlier ∈ done)
    (hlater : later ∈ behind) : earlier.address.name ≠ later.address.name := by
  have hdistinct := h.distinct
  rw [hsplit, List.map_append, List.nodup_append] at hdistinct
  exact hdistinct.2.2 _ (List.mem_map_of_mem hearlier) _ (List.mem_map_of_mem hlater)

/-- **Releasing a cluster that stands** ends in one of these ways. -/
theorem Stands.releases (h : cluster.Stands session.backend) :
    cluster.Releases session.backend (cluster.release session).1
      (cluster.release session).2.backend := by
  rcases releaseNodes_ends h.known with
    ⟨freed, hrun, hpermits, hfreed⟩ | ⟨done, node, rest, freed, hsplit, hrun, hpermits, hstops, hfreed⟩
  · cases hstorage : cluster.sharedStorage with
    | none =>
      rw [release, Run.bind_of_ok hrun, hstorage]
      exact .withoutStorage hstorage hpermits hfreed
    | some storage =>
      have hsome : cluster.sharedStorage.isSome = true := hstorage ▸ rfl
      obtain ⟨last, hlast, hcarried⟩ := release_behind_nodes hsome hrun
      rw [hlast]
      rcases hcarried.single_cases with ⟨after, hend, hcalls⟩ | ⟨error, after, hend, hsame, hcall⟩
      · obtain ⟨hreleases, -, hafter⟩ := Backend.carryOut_eq_ok_iff.mp hcalls
        have hreleases := hreleases _ List.mem_cons_self
        rw [hend]
        exact .finished hsome hpermits (hfreed.scenario ▸ hreleases) hfreed hafter.symm
      · rw [hend, hsame]
        rcases Backend.perform_eq_error_iff.mp hcall with ⟨hstops, rfl⟩ | ⟨-, hobstacle⟩
        · exact .storageKept hsome hpermits (hfreed.scenario ▸ hstops) hfreed
        · cases hobstacle
  · rw [release, Run.bind_of_error hrun]
    exact .stopped hsplit hpermits hstops hfreed fun later hlater =>
      hfreed.kept _ fun earlier hearlier => h.name_ne_of_split hsplit hearlier hlater

/-- No node is unknown to the backend. -/
theorem Releases.ne_unknownNode {result : Ending Failure Unit}
    (h : cluster.Releases before result after) (name : String) :
    result ≠ .error (.backend (.unknownNode name)) := by
  cases h <;> rintro ⟨⟩

/-- A release that fails leaves the storage as it was. -/
theorem Releases.storage_of_error {cause : Failure}
    (h : cluster.Releases before (.error cause) after) : after.storage = before.storage := by
  cases h with
  | stopped _ _ _ hfreed | storageKept _ _ _ hfreed => exact hfreed.storage

/-- **The storage is not touched before all nodes are released.** -/
theorem Releases.released_of_storage_ne {result : Ending Failure Unit}
    (h : cluster.Releases before result after) (hstorage : after.storage ≠ before.storage) :
    ∀ node ∈ cluster.nodes, ∃ state,
      after.nodes.get? node.address.name = some state ∧ state.released = true := by
  cases h with
  | stopped _ _ _ hfreed | withoutStorage _ _ hfreed | storageKept _ _ _ hfreed =>
    exact absurd hfreed.storage hstorage
  | finished _ _ _ hfreed hafter =>
    subst hafter
    intro node hnode
    obtain ⟨state, -, hstate⟩ := hfreed.released node hnode
    exact ⟨_, hstate, rfl⟩

/-- **Releasing never frees storage under a live node.**  A cluster has been hosted, and then anything may
have been done to the backend, so any releases may fail.  Its nodes are released in order, up to the first
whose release fails, and the storage last if at all; all else stays as it was, and no node is unknown. -/
theorem release_frees_nodes_first {formula : Formula} {hosted later : Session}
    (hhosted : formula.provision session = (.ok cluster, hosted)) (steps : List Step)
    (hlater : later.backend = hosted.backend.stepAll steps) :
    cluster.Releases later.backend (cluster.release later).1 (cluster.release later).2.backend ∧
      (∀ name, (cluster.release later).1 ≠ .error (.backend (.unknownNode name))) ∧
      ((cluster.release later).2.backend.storage ≠ later.backend.storage →
        ∀ node ∈ cluster.nodes, ∃ state,
          (cluster.release later).2.backend.nodes.get? node.address.name = some state ∧
            state.released = true) := by
  have hstands : cluster.Stands later.backend :=
    hlater ▸ (Formula.stands_of_provision hhosted).stepAll steps
  have hends := hstands.releases
  exact ⟨hends, hends.ne_unknownNode, hends.released_of_storage_ne⟩

/-- The second of two nodes cannot be released: the first one is, and the storage stays. -/
theorem release_stops_at_second_node :
    let formula : Formula := ⟨.formatEight, .dataCenter 2 {} none⟩
    let stop : Step := .changeScenario (·.failOn .releaseNode "dc-1")
    ∃ cluster hosted, formula.provision ⟨{}, []⟩ = (.ok cluster, hosted) ∧
      let later : Session := ⟨hosted.backend.stepAll [stop], []⟩
      (cluster.release later).1 = .error (.backend (.injected .releaseNode "dc-1")) ∧
      (cluster.release later).2.backend.storage = hosted.backend.storage ∧
      cluster.Releases later.backend (cluster.release later).1 (cluster.release later).2.backend := by
  intro formula stop
  have hrun : (formula.provision ⟨{}, []⟩).1.value?.map (fun cluster =>
      (cluster.release ⟨(formula.provision ⟨{}, []⟩).2.backend.stepAll [stop], []⟩).1) =
        some (.error (.backend (.injected .releaseNode "dc-1"))) := by decide +kernel
  rcases hhosted : formula.provision ⟨{}, []⟩ with ⟨result, hosted⟩
  rw [hhosted] at hrun
  cases result with
  | error | overflow => cases hrun
  | ok cluster =>
    let later : Session := ⟨hosted.backend.stepAll [stop], []⟩
    have hstops : (cluster.release later).1 = .error (.backend (.injected .releaseNode "dc-1")) :=
      Option.some.inj hrun
    have hlater : later.backend = hosted.backend.stepAll [stop] := rfl
    obtain ⟨hends, -, -⟩ := release_frees_nodes_first hhosted [stop] hlater
    exact ⟨cluster, hosted, rfl, hstops, (hstops ▸ hends).storage_of_error, hends⟩

end Cluster

end DatasetHosting
