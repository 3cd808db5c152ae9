import DatasetHosting.Proofs.Cluster.Readiness
import DatasetHosting.Proofs.Cluster.RollBack

/-!
# Proofs/Cluster/Holding — what a backend still holds

A backend remembers every node, but it holds only those that have not been released, and the storage while
there is any.  A call adds no more to what is held than the node that it hands out
(`Backend.HoldsOnly.nextAll`), so whoever releases the nodes handed out and the storage leaves nothing
behind (`Backend.isFree_performAll_releaseCalls`), as long as no release fails.
-/

namespace DatasetHosting

variable {backend final : Backend} {call : Call} {calls : List Call} {held : List String}
  {address : NodeAddress} {allocated : List NodeAddress}

/-! ## Scenarios without failing releases -/

/-- **No failure of the scenario is one of a release.** -/
def Scenario.ReleasesAll (scenario : Scenario) : Prop :=
  ∀ failure ∈ scenario.failures, failure.1 ≠ .releaseNode ∧ failure.1 ≠ .releaseSharedStorage

/-- A call releases a node or the storage. -/
def Call.IsRelease (call : Call) : Prop :=
  call.operation = .releaseNode ∨ call.operation = .releaseSharedStorage

theorem Scenario.ReleasesAll.permits {scenario : Scenario} (h : scenario.ReleasesAll)
    (hcall : call.IsRelease) : scenario.permits call = true := by
  rw [Scenario.permits, Bool.not_eq_true', Scenario.fails, List.any_eq_false]
  intro failure hfailure hfails
  obtain ⟨hnode, hstorage⟩ := h failure hfailure
  have hsame : failure.1 = call.operation := beq_iff_eq.mp (Bool.and_eq_true_iff.mp hfails).1
  rcases hcall with hrelease | hrelease
  · exact hnode (hsame.trans hrelease)
  · exact hstorage (hsame.trans hrelease)

theorem isRelease_of_mem_releaseCalls (h : call ∈ releaseCalls allocated) : call.IsRelease := by
  rcases List.mem_append.mp h with hnode | hstorage
  · obtain ⟨_, -, rfl⟩ := List.mem_map.mp hnode
    exact .inl rfl
  · obtain rfl := List.mem_singleton.mp hstorage
    exact .inr rfl

namespace Backend

/-! ## Nodes that are held -/

/-- **Only nodes of the given names are held.**  Every other node has been released. -/
def HoldsOnly (backend : Backend) (held : List String) : Prop :=
  ∀ name state, backend.nodes.get? name = some state → state.released = false → name ∈ held

/-- **Nothing is held**: every node that the backend knows has been released, and there is no storage. -/
structure IsFree (backend : Backend) : Prop where
  released : ∀ name state, backend.nodes.get? name = some state → state.released = true
  storage : backend.storage = none

theorem isFree_iff : backend.IsFree ↔ backend.HoldsOnly [] ∧ backend.storage = none := by
  constructor
  · rintro ⟨hreleased, hstorage⟩
    refine ⟨fun name state hstate hheld => ?_, hstorage⟩
    rw [hreleased name state hstate] at hheld
    cases hheld
  · rintro ⟨hnone, hstorage⟩
    refine ⟨fun name state hstate => ?_, hstorage⟩
    cases hheld : state.released with
    | true => rfl
    | false => exact absurd (hnone name state hstate hheld) List.not_mem_nil

end Backend

/-- Of a node that a call does not hand out it can only end the holding. -/
theorem Call.held_of_onNode {known : Option NodeState} {state : NodeState}
    (hnew : call.allocated? = none) (h : call.onNode known = some state)
    (hheld : state.released = false) :
    ∃ earlier, known = some earlier ∧ earlier.released = false := by
  cases call with
  | provisionNode => cases hnew
  | provisionSharedStorage | nodeStatus | releaseSharedStorage => exact ⟨state, h, hheld⟩
  | mountSharedHome | bindResource | writeNodeFile =>
    obtain ⟨earlier, hknown, rfl⟩ := Option.map_eq_some_iff.mp h
    exact ⟨earlier, hknown, hheld⟩
  | releaseNode =>
    obtain ⟨earlier, -, rfl⟩ := Option.map_eq_some_iff.mp h
    cases hheld

/-- What a call hands out is the node that it is about. -/
theorem Call.node?_of_allocated? (h : call.allocated? = some address) :
    call.node? = some address.name := by
  cases call with
  | provisionNode spec =>
    obtain rfl := Option.some.inj h
    rfl
  | _ => cases h

namespace Backend

/-- **One call adds to what is held at most the node that it hands out.** -/
theorem HoldsOnly.next (h : backend.HoldsOnly held) (call : Call) :
    (backend.next call).HoldsOnly (held ++ (allocatedIn [call]).map (·.name)) := by
  intro name state hstate hheld
  by_cases hnode : call.node? = some name
  · rw [next_get?_self hnode] at hstate
    cases hnew : call.allocated? with
    | none =>
      obtain ⟨earlier, hearlier, hbefore⟩ := Call.held_of_onNode hnew hstate hheld
      exact List.mem_append_left _ (h name earlier hearlier hbefore)
    | some address =>
      have hname : address.name = name :=
        Option.some.inj ((Call.node?_of_allocated? hnew).symm.trans hnode)
      have hmem : address ∈ allocatedIn [call] :=
        List.mem_filterMap.mpr ⟨call, List.mem_singleton.mpr rfl, hnew⟩
      exact List.mem_append_right _ (List.mem_map.mpr ⟨address, hmem, hname⟩)
  · rw [next_get?_of_ne hnode] at hstate
    exact List.mem_append_left _ (h name state hstate hheld)

/-- **…and calls in order at most the nodes that they hand out.** -/
theorem HoldsOnly.nextAll (h : backend.HoldsOnly held) (calls : List Call) :
    (backend.nextAll calls).HoldsOnly (held ++ (allocatedIn calls).map (·.name)) := by
  induction calls generalizing backend held with
  | nil =>
    change backend.HoldsOnly (held ++ [])
    rwa [List.append_nil]
  | cons call rest ih =>
    have hsplit : allocatedIn (call :: rest) = allocatedIn [call] ++ allocatedIn rest :=
      allocatedIn_append [call] rest
    rw [hsplit, List.map_append, ← List.append_assoc]
    exact ih (h.next call)

/-- Releasing a node ends its holding. -/
theorem HoldsOnly.next_releaseNode (h : backend.HoldsOnly (address.name :: held)) :
    (backend.next (.releaseNode address)).HoldsOnly held := by
  intro name state hstate hheld
  by_cases hnode : (Call.releaseNode address).node? = some name
  · rw [next_get?_self hnode] at hstate
    obtain ⟨earlier, -, rfl⟩ := Option.map_eq_some_iff.mp hstate
    cases hheld
  · rw [next_get?_of_ne hnode] at hstate
    rcases List.mem_cons.mp (h name state hstate hheld) with rfl | hmem
    · exact absurd rfl hnode
    · exact hmem

/-- **Releasing all nodes that may be held leaves none.** -/
theorem HoldsOnly.nextAll_releaseNode (h : backend.HoldsOnly (allocated.map (·.name))) :
    (backend.nextAll (allocated.map .releaseNode)).HoldsOnly [] := by
  induction allocated generalizing backend with
  | nil => exact h
  | cons address rest ih => exact ih h.next_releaseNode

/-! ## Releasing what is held -/

/-- With the storage released as well nothing is held. -/
theorem isFree_nextAll_releaseCalls (h : backend.HoldsOnly (allocated.map (·.name))) :
    (backend.nextAll (releaseCalls allocated)).IsFree := by
  rw [releaseCalls, nextAll_append]
  exact isFree_iff.mpr ⟨h.nextAll_releaseNode, rfl⟩

/-- The backend knows the nodes at the addresses. -/
def Knows (addresses : List NodeAddress) (backend : Backend) : Prop :=
  ∀ address ∈ addresses, (backend.nodes.get? address.name).isSome = true

theorem Knows.next (h : backend.Knows allocated) (call : Call) : (backend.next call).Knows allocated := by
  intro address haddress
  have hstays : ((backend.nextAll [call]).nodes.get? address.name).isSome = true :=
    isSome_get?_nextAll (h address haddress)
  exact hstays

/-- Nothing stands in the way of releases of known nodes and of the storage. -/
theorem Knows.unobstructed (h : backend.Knows allocated)
    (hcalls : ∀ call ∈ calls, call ∈ releaseCalls allocated) : backend.Unobstructed calls := by
  refine (unobstructed_of_invariant h fun call hcall later hlater => ?_).1
  exact ⟨obstacle?_of_mem_releaseCalls hlater (hcalls call hcall), hlater.next call⟩

/-- **…and they all succeed**, where no release fails. -/
theorem carryOut_of_isRelease (hscenario : backend.scenario.ReleasesAll)
    (hknown : backend.Knows allocated) (hcalls : ∀ call ∈ calls, call ∈ releaseCalls allocated) :
    backend.carryOut calls = .ok (backend.nextAll calls) := by
  refine carryOut_eq_ok_iff.mpr ⟨fun call hcall => ?_, hknown.unobstructed hcalls, rfl⟩
  exact hscenario.permits (isRelease_of_mem_releaseCalls (hcalls call hcall))

/-- Nothing has to be passed over in calls that all succeed. -/
theorem performAll_of_carryOut (h : backend.carryOut calls = .ok final) :
    backend.performAll calls = final := by
  induction calls generalizing backend with
  | nil => exact Except.ok.inj h
  | cons call rest ih =>
    rw [carryOut] at h
    cases hcall : backend.perform call with
    | error error =>
      rw [hcall] at h
      cases h
    | ok result =>
      rw [hcall] at h
      change (backend.after call).performAll rest = final
      rw [after_of_ok hcall]
      exact ih h

/-- **Undoing a build leaves nothing held**, where no release fails. -/
theorem isFree_performAll_releaseCalls (hscenario : backend.scenario.ReleasesAll)
    (hknown : backend.Knows allocated) (hheld : backend.HoldsOnly (allocated.map (·.name))) :
    (backend.performAll (releaseCalls allocated)).IsFree ∧
      (backend.performAll (releaseCalls allocated)).scenario = backend.scenario := by
  rw [performAll_of_carryOut (carryOut_of_isRelease hscenario hknown fun _ hcall => hcall)]
  exact ⟨isFree_nextAll_releaseCalls hheld, nextAll_scenario _ _⟩

end Backend

end DatasetHosting
