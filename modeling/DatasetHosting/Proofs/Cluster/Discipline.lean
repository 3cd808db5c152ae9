import DatasetHosting.Dataset.WellKnown
import DatasetHosting.Proofs.Cluster.Observation

/-!
# Proofs/Cluster/Discipline — the order of events in a log

A backend checks a call against its state, and the log tells what the state shows.  So whatever a call needs
has been logged before the call is: a node is provisioned before anything is bound on it, a shared home is
mounted while there is storage, and shared content is bound where its storage is (`EventLog.Admits`).  What
counts is what has happened since the node was last provisioned, and the last event about storage.
-/

namespace DatasetHosting

namespace EventLog

variable {log before behind : EventLog} {event : Event} {name : String}

/-! ## Logs in order -/

/-- The log provisions the node. -/
def Provisions (log : EventLog) (name : String) : Prop :=
  ∃ ip, .nodeProvisioned name ip ∈ log

/-- The log mounts a shared home on the node since the node was last provisioned. -/
def Mounts (log : EventLog) (name : String) : Prop :=
  ∃ since ip, log.since? name = some since ∧ .sharedHomeMounted name ip ∈ since

/-- The last event about storage provisions it, with an object store or not. -/
def HasStorage (log : EventLog) (objectStore : Bool) : Prop :=
  ∃ dataset subnet, log.lastStorage? = some (.sharedStorageProvisioned dataset subnet objectStore)

/-- **What has to stand in front of an event.** -/
def Admits (before : EventLog) : Event → Prop
  | .sharedHomeMounted node _ => before.Provisions node ∧ ∃ objectStore, before.HasStorage objectStore
  | .resourceBound node binding =>
    before.Provisions node ∧ (binding.placement = .sharedHome → before.Mounts node) ∧
      (binding.placement = .objectStore → before.HasStorage true)
  | _ => True

/-- **A log in order**: in front of each event stands what it needs. -/
def IsOrdered (log : EventLog) : Prop :=
  ∀ (before : EventLog) (event : Event) (behind : EventLog),
    log = before ++ event :: behind → before.Admits event

theorem isOrdered_nil : IsOrdered [] := by
  intro before event behind h
  simp at h

/-- An ordered log stays ordered with an event that it admits. -/
theorem IsOrdered.concat (h : log.IsOrdered) (hevent : log.Admits event) :
    IsOrdered (log ++ [event]) := by
  intro before other behind hsplit
  rcases List.eq_nil_or_concat behind with rfl | ⟨more, last, rfl⟩
  · obtain ⟨rfl, hlast⟩ := List.append_inj' hsplit rfl
    obtain rfl := List.singleton_inj.mp hlast
    exact hevent
  · have hfront : log ++ [event] = (before ++ other :: more) ++ [last] := by simpa using hsplit
    exact h before other more (List.append_inj' hfront rfl).1

theorem IsOrdered.of_append (h : IsOrdered (log ++ behind)) : log.IsOrdered := by
  intro before event more hsplit
  exact h before event (more ++ behind) (by simp [hsplit])

/-! ## What a log tells -/

/-- There is something since the last provision of a node if the node was provisioned. -/
theorem isSome_since?_iff : (log.since? name).isSome = true ↔ log.Provisions name := by
  simp [isSome_since?, Event.provisions_iff, Provisions]

/-- An address of the shared home is known only from a mount. -/
theorem exists_mounted_of_homeIp {since : EventLog} (h : (since.view name).homeIp.isSome = true) :
    ∃ ip, .sharedHomeMounted name ip ∈ since := by
  obtain ⟨ip, hip⟩ := Option.isSome_iff_exists.mp h
  obtain ⟨event, hevent, hhome⟩ := List.mem_filterMap.mp (List.mem_of_getLast? hip)
  cases event with
  | sharedHomeMounted node home =>
    simp only [Event.homeIpOn?, Option.ite_none_right_eq_some] at hhome
    obtain ⟨rfl, -⟩ := hhome
    exact ⟨home, hevent⟩
  | _ => cases hhome

/-- The log has a storage where its replay ends with one. -/
theorem hasStorage_iff {objectStore : Bool} :
    log.HasStorage objectStore ↔ log.replay.storage = some objectStore := by
  simp only [HasStorage, replay, Option.bind_eq_some_iff]
  constructor
  · rintro ⟨dataset, subnet, hlast⟩
    exact ⟨_, hlast, rfl⟩
  · rintro ⟨event, hlast, hstorage⟩
    cases event with
    | sharedStorageProvisioned dataset subnet =>
      obtain rfl := Option.some.inj hstorage
      exact ⟨dataset, subnet, hlast⟩
    | _ => cases hstorage

end EventLog

/-! ## Calls that are carried out -/

namespace Backend

variable {backend : Backend} {call : Call} {name : String}

namespace MatchesLog

theorem node (h : backend.MatchesLog) (name : String) :
    (backend.nodes.get? name).map NodeState.view =
      (backend.events.since? name).map (EventLog.view · name) :=
  congrFun (congrArg Observation.node h) name

theorem storage (h : backend.MatchesLog) :
    backend.storage.map (·.objectStore.isSome) = backend.events.replay.storage :=
  congrArg Observation.storage h

/-- **A known node has been provisioned**, and no other. -/
theorem isSome_get?_iff (h : backend.MatchesLog) :
    (backend.nodes.get? name).isSome = true ↔ backend.events.Provisions name := by
  rw [← EventLog.isSome_since?_iff, ← Option.isSome_map (f := NodeState.view), h.node, Option.isSome_map]

theorem provisions_of_unknown? (h : backend.MatchesLog) (hknown : backend.unknown? name = none) :
    backend.events.Provisions name := by
  rw [← h.isSome_get?_iff]
  simpa [unknown?, Option.isSome_iff_ne_none] using hknown

/-- A node that mounts a shared home has done so since it was provisioned. -/
theorem mounts (h : backend.MatchesLog) {state : NodeState}
    (hstate : backend.nodes.get? name = some state) (hmounted : state.mounted.isSome = true) :
    backend.events.Mounts name := by
  have hnode := h.node name
  rw [hstate, Option.map_some, eq_comm, Option.map_eq_some_iff] at hnode
  obtain ⟨since, hsince, hview⟩ := hnode
  have hhome : (since.view name).homeIp.isSome = true := by simpa [hview, NodeState.view] using hmounted
  obtain ⟨ip, hip⟩ := EventLog.exists_mounted_of_homeIp hhome
  exact ⟨since, ip, hsince, hip⟩

/-- A node ready for the shared home has mounted it in the log. -/
theorem mounts_of_unready? (h : backend.MatchesLog)
    (hready : backend.unready? name .sharedHome = none) : backend.events.Mounts name := by
  rw [unready?] at hready
  split at hready
  · cases hready
  · next state hstate => exact h.mounts hstate (by simpa [Option.isSome_iff_ne_none] using hready)

/-- A node ready for the object store has one in the log. -/
theorem hasStorage_of_unready? (h : backend.MatchesLog)
    (hready : backend.unready? name .objectStore = none) : backend.events.HasStorage true := by
  rw [EventLog.hasStorage_iff, ← h.storage]
  cases hstorage : backend.storage with
  | none => simp [unready?, hstorage] at hready
  | some storage => simpa [unready?, hstorage, Option.isSome_iff_ne_none] using hready

/-- **What the state does not stand in the way of, the log admits.** -/
theorem admits (h : backend.MatchesLog) (hfree : backend.obstacle? call = none) :
    backend.events.Admits (backend.event call) := by
  cases call with
  | mountSharedHome node home =>
    rw [obstacle?] at hfree
    split at hfree
    · cases hfree
    · next hlive =>
      have hstorage : (backend.storage.map (·.objectStore.isSome)).isSome = true := by
        simpa [Option.isSome_iff_ne_none] using hlive
      rw [h.storage] at hstorage
      obtain ⟨objectStore, hlast⟩ := Option.isSome_iff_exists.mp hstorage
      exact ⟨h.provisions_of_unknown? hfree, objectStore, EventLog.hasStorage_iff.mpr hlast⟩
  | bindResource node binding =>
    rw [obstacle?, Option.or_eq_none_iff] at hfree
    obtain ⟨hready, hknown⟩ := hfree
    refine ⟨h.provisions_of_unknown? hknown, fun hplace => ?_, fun hplace => ?_⟩
    · rw [hplace] at hready
      exact h.mounts_of_unready? hready
    · rw [hplace] at hready
      exact h.hasStorage_of_unready? hready
  | _ => trivial

end MatchesLog

/-- **A log in step with its state stays in order.** -/
theorem isOrdered_next (h : backend.MatchesLog) (hlog : backend.events.IsOrdered)
    (hfree : backend.obstacle? call = none) : (backend.next call).events.IsOrdered := by
  rw [next_events]
  exact hlog.concat (h.admits hfree)

/-- **Every log is in order**, whichever calls were made and whichever failed. -/
theorem isOrdered_performAll (scenario : Scenario) (calls : List Call) :
    (performAll { scenario } calls).events.IsOrdered := by
  let Holds (backend : Backend) : Prop := backend.MatchesLog ∧ backend.events.IsOrdered
  have hnew : Holds { scenario } := ⟨rfl, EventLog.isOrdered_nil⟩
  have hall : Holds (performAll { scenario } calls) :=
    performAll_of_invariant hnew (fun _ call h hfree => ⟨h.1.next call, isOrdered_next h.1 h.2 hfree⟩) calls
  exact hall.2

/-- **The log of a backend keeps order**, over any calls on a new backend and whatever fails.  A resource is
bound on a node that was provisioned before; if it lies on the shared home, one was mounted since the node
was last provisioned; if in the object store, the last event about storage provisions one.  A shared home is
mounted on a node that was provisioned before, while there is storage. -/
theorem events_inOrder (scenario : Scenario) (calls : List Call) (before : EventLog) (event : Event)
    (behind : EventLog) (h : (performAll { scenario } calls).events = before ++ event :: behind) :
    (∀ node binding, event = .resourceBound node binding →
      (∃ ip, .nodeProvisioned node ip ∈ before) ∧
      (binding.placement = .sharedHome →
        ∃ since ip, before.since? node = some since ∧ .sharedHomeMounted node ip ∈ since) ∧
      (binding.placement = .objectStore →
        ∃ dataset subnet,
          before.lastStorage? = some (.sharedStorageProvisioned dataset subnet true))) ∧
    ∀ node ip, event = .sharedHomeMounted node ip →
      (∃ ip', .nodeProvisioned node ip' ∈ before) ∧
      ∃ objectStore dataset subnet,
        before.lastStorage? = some (.sharedStorageProvisioned dataset subnet objectStore) := by
  have hadmits := isOrdered_performAll scenario calls before event behind h
  constructor
  · rintro node binding rfl
    exact hadmits
  · rintro node ip rfl
    exact hadmits

/-- A node provisioned again has to mount the shared home again before shared content is bound. -/
theorem events_inOrder_provisioned_again :
    let node : NodeAddress := ⟨"dc-0", "10.0.0.10"⟩
    let home : SharedHome := ⟨"10.0.0.4", "/opt/jira-shared-home"⟩
    let binding : Binding := ⟨.avatars, .sharedHome, "/opt/jira-shared-home/data/avatars"⟩
    let before : EventLog :=
      [.sharedStorageProvisioned Dataset.formatEight.id "10.0.0.0/24" false,
       .nodeProvisioned "dc-0" "10.0.0.10", .sharedHomeMounted "dc-0" "10.0.0.4",
       .nodeProvisioned "dc-0" "10.0.0.10", .sharedHomeMounted "dc-0" "10.0.0.4"]
    (performAll {}
      [.provisionSharedStorage Dataset.formatEight (.ofConfig {}), .provisionNode ⟨0, "dc-0"⟩,
       .mountSharedHome node home, .provisionNode ⟨0, "dc-0"⟩, .bindResource node binding,
       .mountSharedHome node home, .bindResource node binding]).events =
      before ++ .resourceBound "dc-0" binding :: [] ∧
    (∃ ip, .nodeProvisioned "dc-0" ip ∈ before) ∧
    ∃ since ip, before.since? "dc-0" = some since ∧ .sharedHomeMounted "dc-0" ip ∈ since := by
  intro node home binding before
  have hevents : (performAll {}
      [.provisionSharedStorage Dataset.formatEight (.ofConfig {}), .provisionNode ⟨0, "dc-0"⟩,
       .mountSharedHome node home, .provisionNode ⟨0, "dc-0"⟩, .bindResource node binding,
       .mountSharedHome node home, .bindResource node binding]).events =
      before ++ .resourceBound "dc-0" binding :: [] := by decide +kernel
  obtain ⟨hprovisioned, hmounted, -⟩ := (events_inOrder _ _ _ _ _ hevents).1 _ _ rfl
  exact ⟨hevents, hprovisioned, hmounted rfl⟩

end Backend

end DatasetHosting
