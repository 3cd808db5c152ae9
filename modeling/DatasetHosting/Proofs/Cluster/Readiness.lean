import DatasetHosting.Proofs.Cluster.Build
import DatasetHosting.Proofs.Cluster.View

/-!
# Proofs/Cluster/Readiness — nothing stands in the way of a build

The backend refuses to mount without storage, to bind before the storage of the binding is there, and to
touch a node that it does not know.  The calls of a build come in an order in which none of that can
happen, whatever the backend held before: while a node is configured it is known, it mounts the shared
home, and the storage of the build is there (`IsReady`).
-/

namespace DatasetHosting

/-! ## Calls under an invariant -/

namespace Backend

variable {backend : Backend} {calls : List Call}

/-- **If an invariant keeps every call from being obstructed, and every call keeps the invariant,**
then the calls are not obstructed and the invariant holds behind them. -/
theorem unobstructed_of_invariant {Holds : Backend → Prop} (hbackend : Holds backend)
    (hstep : ∀ call ∈ calls, ∀ backend, Holds backend →
      backend.obstacle? call = none ∧ Holds (backend.next call)) :
    backend.Unobstructed calls ∧ Holds (backend.nextAll calls) := by
  induction calls generalizing backend with
  | nil => exact ⟨trivial, hbackend⟩
  | cons call rest ih =>
    obtain ⟨hfree, hnext⟩ := hstep call List.mem_cons_self backend hbackend
    obtain ⟨hrest, hend⟩ := ih hnext fun later hl => hstep later (List.mem_cons_of_mem _ hl)
    exact ⟨⟨hfree, hrest⟩, hend⟩

end Backend

/-! ## A node that is being configured -/

/-- Nothing but a new node of its name takes the shared home from a node. -/
theorem Call.onNode_mounted {call : Call} {state : NodeState}
    (hnew : call.operation ≠ .provisionNode) (h : state.mounted.isSome = true) :
    ∃ after, call.onNode (some state) = some after ∧ after.mounted.isSome = true := by
  cases call with
  | provisionNode => exact absurd rfl hnew
  | mountSharedHome => exact ⟨_, rfl, rfl⟩
  | _ => exact ⟨_, rfl, h⟩

namespace Formula

/-- The storage has what the bindings need. -/
def NodeSetup.IsProvided (setup : NodeSetup) : Prop :=
  ∀ binding ∈ setup.bindings, binding.placement = .objectStore →
    setup.storage.objectStore.isSome = true

/-- **The node can be configured**: the storage is there and the node mounts the shared home. -/
structure IsReady (setup : NodeSetup) (name : String) (backend : Backend) : Prop where
  storage : backend.storage = some setup.storage
  mounted : ∃ state, backend.nodes.get? name = some state ∧ state.mounted.isSome = true

namespace IsReady

variable {setup : NodeSetup} {backend : Backend} {name : String}

/-- **A node stays ready** through its own calls, as long as it is not provisioned again. -/
theorem next (h : IsReady setup name backend) {call : Call} (hnode : call.node? = some name)
    (hnew : call.operation ≠ .provisionNode) : IsReady setup name (backend.next call) := by
  obtain ⟨state, hstate, hmounted⟩ := h.mounted
  refine ⟨(Backend.next_storage_of_node hnode).trans h.storage, ?_⟩
  rw [Backend.next_get?_self hnode, hstate]
  exact Call.onNode_mounted hnew hmounted

theorem unknown?_eq_none (h : IsReady setup name backend) : backend.unknown? name = none := by
  obtain ⟨state, hstate, -⟩ := h.mounted
  rw [Backend.unknown?, hstate]
  rfl

/-- A ready node is ready for every placement that its setup provides. -/
theorem unready?_eq_none (h : IsReady setup name backend) {placement : Placement}
    (hstore : placement = .objectStore → setup.storage.objectStore.isSome = true) :
    backend.unready? name placement = none := by
  cases placement with
  | nodeLocal => rfl
  | sharedHome =>
    obtain ⟨state, hstate, hmounted⟩ := h.mounted
    rw [Backend.unready?, hstate]
    exact if_pos hmounted
  | objectStore =>
    rw [Backend.unready?, h.storage]
    exact if_pos (hstore rfl)

theorem obstacle?_writeNodeFile {address : NodeAddress} (h : IsReady setup address.name backend)
    (file : NodeFile) : backend.obstacle? (.writeNodeFile address file) = none :=
  h.unknown?_eq_none

theorem obstacle?_bindResource {address : NodeAddress} (h : IsReady setup address.name backend)
    (hprovided : setup.IsProvided) {binding : Binding} (hbinding : binding ∈ setup.bindings) :
    backend.obstacle? (.bindResource address binding) = none := by
  rw [Backend.obstacle?, h.unready?_eq_none (hprovided binding hbinding), h.unknown?_eq_none]
  rfl

end IsReady

/-! ## The calls of a build -/

variable {setup : NodeSetup} {backend : Backend} {index : UInt64}

/-- The calls that build a node are about that node. -/
theorem node?_of_mem_nodeCalls :
    ∀ call ∈ nodeCalls setup index, call.node? = some (nodeName index) :=
  List.forall_mem_cons.mpr
    ⟨rfl, forall_mem_configureCalls rfl (fun _ => rfl) (fun _ => rfl)⟩

theorem storage_nextAll_nodeCalls :
    (backend.nextAll (nodeCalls setup index)).storage = backend.storage :=
  Backend.nextAll_storage fun call hc => by rw [node?_of_mem_nodeCalls call hc]; rfl

/-- **A node is configured without obstacle** once it is known and the storage is there. -/
theorem unobstructed_configureCalls (hprovided : setup.IsProvided)
    (hstorage : backend.storage = some setup.storage)
    (hknown : (backend.nodes.get? (nodeName index)).isSome = true) :
    backend.Unobstructed (configureCalls setup index) := by
  obtain ⟨state, hstate⟩ := Option.isSome_iff_exists.mp hknown
  let mount := Call.mountSharedHome (nodeAddress index) setup.storage.sharedHome
  have hfree : backend.obstacle? mount = none := by
    change (if backend.storage.isNone then _ else backend.unknown? (nodeName index)) = none
    rw [hstorage, Backend.unknown?, hstate]
    rfl
  have hready : IsReady setup (nodeName index) (backend.next mount) := by
    refine ⟨(Backend.next_storage_of_node rfl).trans hstorage, ?_⟩
    rw [Backend.next_get?_self rfl, hstate]
    exact ⟨_, rfl, rfl⟩
  refine ⟨hfree, (Backend.unobstructed_of_invariant hready fun call hc later hlater => ?_).1⟩
  simp only [List.mem_cons, List.mem_append, List.mem_map, Option.mem_toList,
    Option.map_eq_some_iff] at hc
  rcases hc with ⟨binding, hbinding, rfl⟩ | rfl | ⟨file, -, rfl⟩
  · exact ⟨hlater.obstacle?_bindResource hprovided hbinding, hlater.next rfl (by rintro ⟨⟩)⟩
  · exact ⟨hlater.obstacle?_writeNodeFile _, hlater.next rfl (by rintro ⟨⟩)⟩
  · exact ⟨hlater.obstacle?_writeNodeFile _, hlater.next rfl (by rintro ⟨⟩)⟩

/-- **Nothing stands in the way of setting up a node** where the storage of the setup is in place. -/
theorem unobstructed_nodeCalls (hprovided : setup.IsProvided)
    (hstorage : backend.storage = some setup.storage) :
    backend.Unobstructed (nodeCalls setup index) := by
  refine ⟨rfl, unobstructed_configureCalls hprovided hstorage ?_⟩
  rw [Backend.next_get?_self rfl]
  rfl

/-- **Nodes are built without obstacle** once the storage is there, whatever nodes are known. -/
theorem unobstructed_nodesCalls (hprovided : setup.IsProvided)
    (hstorage : backend.storage = some setup.storage) (start count : Nat) :
    backend.Unobstructed (nodesCalls setup start count) := by
  induction count generalizing backend start with
  | zero => exact trivial
  | succ count ih =>
    rw [nodesCalls_succ, Backend.unobstructed_append]
    exact ⟨unobstructed_nodeCalls hprovided hstorage,
      ih (storage_nextAll_nodeCalls.trans hstorage) (start + 1)⟩

end Formula

end DatasetHosting
