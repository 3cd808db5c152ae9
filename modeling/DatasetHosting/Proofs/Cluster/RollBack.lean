import DatasetHosting.Proofs.Cluster.Build
import DatasetHosting.Proofs.Cluster.View

/-!
# Proofs/Cluster/RollBack — what undoing a build leaves

Rolling back never fails: it makes its calls one after the other and passes over those that fail
(`Formula.rollBack_passesOver`).  As every allocated node is known, only the scenario can make one fail,
so what is left is told by the calls that the scenario lets through (`rolledBack_performAll`).
-/

namespace DatasetHosting

variable {ε : Type} {session : Session} {calls rest : List Call}

/-! ## Calls that may fail -/

namespace Backend

variable {backend : Backend} {call : Call}

theorem performAll_append (backend : Backend) (calls rest : List Call) :
    backend.performAll (calls ++ rest) = (backend.performAll calls).performAll rest :=
  List.foldl_append

theorem after_of_error {error : BackendError} (h : backend.perform call = .error error) :
    backend.after call = backend := by
  rw [after, h]

theorem after_of_ok {answer : Answer} {next : Backend}
    (h : backend.perform call = .ok (answer, next)) : backend.after call = next := by
  rw [after, h]

/-- **If nothing but the scenario can make the calls fail,** those that it lets through are made. -/
theorem performAll_eq_nextAll
    (h : ∀ call ∈ calls, ∀ done, (backend.nextAll done).obstacle? call = none) :
    backend.performAll calls = backend.nextAll (calls.filter backend.scenario.permits) := by
  induction calls generalizing backend with
  | nil => rfl
  | cons call rest ih =>
    change (backend.after call).performAll rest = _
    cases hp : backend.scenario.permits call with
    | false =>
      rw [after_of_error (perform_of_not_permits hp), List.filter_cons, if_neg (by simp [hp])]
      exact ih fun later hl => h later (List.mem_cons_of_mem _ hl)
    | true =>
      have hok : backend.perform call = .ok (backend.answer call, backend.next call) :=
        perform_eq_ok_iff.mpr ⟨hp, h call List.mem_cons_self [], rfl, rfl⟩
      rw [after_of_ok hok, List.filter_cons, if_pos hp, nextAll_cons, ← next_scenario backend call]
      exact ih fun later hl done => h later (List.mem_cons_of_mem _ hl) (call :: done)

end Backend

/-- **The run makes the calls in order and passes over those that fail.** -/
def PassesOver (run : RunT ε Unit) (session : Session) (calls : List Call) : Prop :=
  ∃ session', run session = (.ok (), session') ∧
    session'.backend = session.backend.performAll calls

namespace PassesOver

variable {run : RunT ε Unit}

/-- A failure that is reported stops nothing. -/
theorem orReport {operation : Backend → Except BackendError (Unit × Backend)} {call : Call}
    (hop : session.backend.perform call =
      Backend.answering (fun _ => .done) (operation session.backend))
    (message : String) (fields : List (String × LogValue)) :
    PassesOver (Run.orReport (Run.call operation) message fields : RunT ε Unit) session [call] := by
  cases hperform : session.backend.perform call with
  | error error =>
    let entry : LogEntry := ⟨.warn, message, fields ++ [("error", .text error.message)]⟩
    refine ⟨{ session with log := session.log ++ [entry] }, ?_, ?_⟩
    · exact Run.bind_of_ok (Run.attempt_of_error (Run.call_of_error hop hperform))
    · exact (Backend.after_of_error hperform).symm
  | ok result =>
    obtain ⟨_, -, hrun⟩ := Run.call_of_ok hop hperform
    refine ⟨{ session with backend := result.2 }, ?_, ?_⟩
    · exact Run.bind_of_ok (Run.attempt_of_ok hrun)
    · exact (Backend.after_of_ok hperform).symm

theorem bind {next : Unit → RunT ε Unit} (h : PassesOver run session calls)
    (hnext : ∀ session', PassesOver (next ()) session' rest) :
    PassesOver (run >>= next) session (calls ++ rest) := by
  obtain ⟨session₁, hrun, hbackend⟩ := h
  obtain ⟨session₂, hrun', hbackend'⟩ := hnext session₁
  refine ⟨session₂, (Run.bind_of_ok hrun).trans hrun', ?_⟩
  rw [hbackend', hbackend, Backend.performAll_append]

end PassesOver

/-! ## Rolling back -/

/-- The calls that undo a build. -/
def releaseCalls (allocated : List NodeAddress) : List Call :=
  allocated.map .releaseNode ++ [.releaseSharedStorage]

namespace Formula

theorem releaseAllocated_passesOver (allocated : List NodeAddress) (session : Session) :
    PassesOver (releaseAllocated allocated) session (allocated.map .releaseNode) := by
  induction allocated generalizing session with
  | nil => exact ⟨session, rfl, rfl⟩
  | cons address rest ih => exact (PassesOver.orReport rfl _ _).bind ih

/-- **Rolling back succeeds, whatever fails in it.** -/
theorem rollBack_passesOver (allocated : List NodeAddress) (storage : SharedStorage)
    (session : Session) :
    PassesOver (rollBack allocated storage) session (releaseCalls allocated) :=
  (releaseAllocated_passesOver allocated session).bind fun _ => .orReport rfl _ _

end Formula

/-- The nodes whose release the scenario lets through. -/
def Scenario.releasable (scenario : Scenario) (allocated : List NodeAddress) : List NodeAddress :=
  allocated.filter fun address => scenario.permits (.releaseNode address)

/-- **What a roll-back leaves of a backend**: the allocated nodes are released, each unless its release
fails, and so is the storage. -/
structure RolledBack (before : Backend) (allocated : List NodeAddress) (after : Backend) : Prop where
  /-- Only releases are logged, in the order of allocation and the storage last. -/
  events : after.events = before.events ++
    (before.scenario.releasable allocated).map (.nodeReleased ·.name) ++
      if before.scenario.permits .releaseSharedStorage then [.sharedStorageReleased] else []
  /-- The storage is gone unless its release fails. -/
  storage : after.storage =
    if before.scenario.permits .releaseSharedStorage then none else before.storage
  /-- A released node is marked as such and otherwise as it was. -/
  released : ∀ address ∈ before.scenario.releasable allocated,
    ∃ state, before.nodes.get? address.name = some state ∧
      after.nodes.get? address.name = some { state with released := true }
  /-- All other nodes are as they were. -/
  kept : ∀ name, (∀ address ∈ before.scenario.releasable allocated, address.name ≠ name) →
    after.nodes.get? name = before.nodes.get? name
  /-- The scenario is as it was. -/
  scenario : after.scenario = before.scenario

variable {backend : Backend} {allocated : List NodeAddress}

theorem obstacle?_of_mem_releaseCalls
    (hknown : ∀ address ∈ allocated, (backend.nodes.get? address.name).isSome = true)
    {call : Call} (h : call ∈ releaseCalls allocated) : backend.obstacle? call = none := by
  rcases List.mem_append.mp h with hnode | hstorage
  · obtain ⟨address, haddress, rfl⟩ := List.mem_map.mp hnode
    exact if_pos (hknown address haddress)
  · obtain rfl := List.mem_singleton.mp hstorage
    rfl

theorem filter_permits_releaseCalls (scenario : Scenario) (allocated : List NodeAddress) :
    (releaseCalls allocated).filter scenario.permits =
      (scenario.releasable allocated).map .releaseNode ++
        if scenario.permits .releaseSharedStorage then [.releaseSharedStorage] else [] := by
  rw [releaseCalls, List.filter_append, List.filter_map]
  cases h : scenario.permits .releaseSharedStorage with
  | false => rw [List.filter_cons, if_neg (by simp [h])]; rfl
  | true => rw [List.filter_cons, if_pos h]; rfl

/-- Releasing a node marks it, however often it is done. -/
theorem onNodeAll_releaseNode {calls : List Call} (hcalls : calls ≠ [])
    (hrelease : ∀ call ∈ calls, ∃ address, call = .releaseNode address) (state : NodeState) :
    onNodeAll calls (some state) = some { state with released := true } := by
  induction calls generalizing state with
  | nil => exact absurd rfl hcalls
  | cons call rest ih =>
    obtain ⟨address, rfl⟩ := hrelease call List.mem_cons_self
    rw [onNodeAll_cons, Call.onNode, Option.map_some]
    by_cases hrest : rest = []
    · rw [hrest]
      rfl
    · rw [ih hrest fun later hl => hrelease later (List.mem_cons_of_mem _ hl)]

namespace Backend

variable {gone : List NodeAddress} {name : String}

/-- A known node is marked by a release among others… -/
theorem get?_nextAll_releaseNode {address : NodeAddress} {state : NodeState} (h : address ∈ gone)
    (hstate : backend.nodes.get? address.name = some state) :
    (backend.nextAll (gone.map .releaseNode)).nodes.get? address.name =
      some { state with released := true } := by
  rw [nextAll_get?, hstate]
  refine onNodeAll_releaseNode ?_ (fun call hcall => ?_) state
  · refine List.ne_nil_of_mem (List.mem_filter.mpr ⟨List.mem_map_of_mem h, ?_⟩)
    exact decide_eq_true rfl
  · obtain ⟨other, -, rfl⟩ := List.mem_map.mp (List.mem_filter.mp hcall).1
    exact ⟨other, rfl⟩

/-- …and passed by the releases of others. -/
theorem get?_nextAll_releaseNode_of_ne (h : ∀ address ∈ gone, address.name ≠ name) :
    (backend.nextAll (gone.map .releaseNode)).nodes.get? name = backend.nodes.get? name := by
  refine nextAll_get?_of_forall_ne fun call hcall hsame => ?_
  obtain ⟨address, haddress, rfl⟩ := List.mem_map.mp hcall
  exact h address haddress (Option.some.inj hsame)

/-- Releasing nodes leaves the storage alone. -/
theorem storage_nextAll_releaseNode (backend : Backend) (gone : List NodeAddress) :
    (backend.nextAll (gone.map .releaseNode)).storage = backend.storage := by
  refine nextAll_storage fun call hcall => ?_
  obtain ⟨address, -, rfl⟩ := List.mem_map.mp hcall
  rfl

end Backend

/-- Releasing the storage, or not, is nothing to the nodes. -/
theorem nodes_nextAll_releaseSharedStorage (backend : Backend) (permitted : Bool) :
    (backend.nextAll (if permitted then [.releaseSharedStorage] else [])).nodes = backend.nodes := by
  cases permitted <;> rfl

/-- **Undoing a build of known nodes** leaves what a roll-back should. -/
theorem rolledBack_performAll
    (hknown : ∀ address ∈ allocated, (backend.nodes.get? address.name).isSome = true) :
    RolledBack backend allocated (backend.performAll (releaseCalls allocated)) := by
  have hfree : ∀ call ∈ releaseCalls allocated, ∀ done,
      (backend.nextAll done).obstacle? call = none := by
    intro call hcall done
    exact obstacle?_of_mem_releaseCalls
      (fun address ha => Backend.isSome_get?_nextAll (hknown address ha)) hcall
  rw [Backend.performAll_eq_nextAll hfree, filter_permits_releaseCalls, Backend.nextAll_append]
  refine ⟨?events, ?storage, fun address haddress => ?released, fun name hname => ?kept,
    ?same⟩
  case events =>
    rw [Backend.nextAll_events, Backend.nextAll_events, List.map_map]
    cases backend.scenario.permits .releaseSharedStorage <;> rfl
  case storage =>
    cases backend.scenario.permits .releaseSharedStorage with
    | false => exact backend.storage_nextAll_releaseNode _
    | true => rfl
  case released =>
    have hallocated : address ∈ allocated := (List.mem_filter.mp haddress).1
    obtain ⟨state, hstate⟩ := Option.isSome_iff_exists.mp (hknown address hallocated)
    rw [nodes_nextAll_releaseSharedStorage]
    exact ⟨state, hstate, Backend.get?_nextAll_releaseNode haddress hstate⟩
  case kept =>
    rw [nodes_nextAll_releaseSharedStorage]
    exact Backend.get?_nextAll_releaseNode_of_ne hname
  case same => rw [Backend.nextAll_scenario, Backend.nextAll_scenario]

/-! ## The nodes that a build has allocated -/

/-- A node whose address was handed out is known. -/
theorem Backend.isSome_get?_of_allocated {address : NodeAddress}
    (h : address ∈ allocatedIn calls) :
    ((backend.nextAll calls).nodes.get? address.name).isSome = true := by
  obtain ⟨call, hcall, haddress⟩ := List.mem_filterMap.mp h
  obtain ⟨before, behind, rfl⟩ := List.append_of_mem hcall
  rw [Backend.nextAll_append, Backend.nextAll_cons]
  refine Backend.isSome_get?_nextAll ?_
  cases call with
  | provisionNode spec =>
    obtain rfl := Option.some.inj haddress
    rw [Backend.next_get?_self rfl]
    rfl
  | _ => cases haddress

end DatasetHosting
