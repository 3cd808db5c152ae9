import Mathlib.Data.Finset.Basic
import Mathlib.Data.List.DropRight
import DatasetHosting.Proofs.Cluster.View

/-!
# Proofs/Cluster/Observation — what a log tells about the state behind it

A backend changes its state and its log in separate steps.  What can be observed of the state is said twice
here: once from the state, by looking (`Backend.observation`), and once from the log alone
(`EventLog.replay`).  Of a node the log tells by what stands behind the last event that provisions it, and of
the storage by the last event about storage.  One call keeps the two readings the same
(`Backend.MatchesLog.next`), also where it is about a node that is not known: such an event stands behind
no provisioning and tells nothing.
-/

namespace DatasetHosting

/-! ## What can be observed -/

/-- **What can be seen of a node.** -/
@[ext]
structure NodeView where
  /-- Its bindings, in order. -/
  bindings : List Binding
  /-- The names of its files. -/
  files : Finset String
  /-- The address of the shared home that it mounts. -/
  homeIp : Option String
  /-- Whether it has been released. -/
  released : Bool
  deriving DecidableEq

/-- **What can be seen of a backend.** -/
@[ext]
structure Observation where
  /-- Each node, if it is known. -/
  node : String → Option NodeView
  /-- The storage, if there is any: whether it has an object store. -/
  storage : Option Bool

/-- A node as its state shows it. -/
def NodeState.view (state : NodeState) : NodeView where
  bindings := state.bindings
  files := state.files.names.toFinset
  homeIp := state.mounted.map (·.ip)
  released := state.released

/-- **A backend as its state shows it.** -/
def Backend.observation (backend : Backend) : Observation where
  node name := (backend.nodes.get? name).map NodeState.view
  storage := backend.storage.map (·.objectStore.isSome)

/-! ## Reading a log -/

namespace Event

/-- Whether the event provisions the node. -/
def provisions (name : String) : Event → Bool
  | nodeProvisioned node _ => node == name
  | _ => false

theorem provisions_iff {event : Event} {name : String} :
    event.provisions name = true ↔ ∃ ip, event = .nodeProvisioned name ip := by
  cases event <;> simp [provisions]

/-- The binding that the event makes on the node. -/
def bindingOn? (name : String) : Event → Option Binding
  | resourceBound node binding => if node = name then some binding else none
  | _ => none

/-- The file that the event writes on the node. -/
def fileOn? (name : String) : Event → Option String
  | fileWritten node file => if node = name then some file else none
  | _ => none

/-- The address of the shared home that the event mounts on the node. -/
def homeIpOn? (name : String) : Event → Option String
  | sharedHomeMounted node ip => if node = name then some ip else none
  | _ => none

/-- Whether the event is about the storage. -/
def isStorage : Event → Bool
  | sharedStorageProvisioned .. => true
  | sharedStorageReleased => true
  | _ => false

/-- The storage that the event provisions: whether it has an object store. -/
def storage? : Event → Option Bool
  | sharedStorageProvisioned _ _ objectStore => some objectStore
  | _ => none

end Event

namespace EventLog

/-- **The events since the node was last provisioned**, none if it never was. -/
def since? (log : EventLog) (name : String) : Option EventLog :=
  if log.any (Event.provisions name) then some (log.rtakeWhile (!·.provisions name)) else none

/-- A node as the events since its provisioning show it. -/
def view (since : EventLog) (name : String) : NodeView where
  bindings := since.filterMap (Event.bindingOn? name)
  files := (since.filterMap (Event.fileOn? name)).toFinset
  homeIp := (since.filterMap (Event.homeIpOn? name)).getLast?
  released := decide (.nodeReleased name ∈ since)

/-- The last event about the storage. -/
def lastStorage? (log : EventLog) : Option Event :=
  (log.filter Event.isStorage).getLast?

/-- **A backend as its log shows it.** -/
def replay (log : EventLog) : Observation where
  node name := (log.since? name).map (view · name)
  storage := log.lastStorage?.bind Event.storage?

variable {log : EventLog} {event : Event} {name : String}

/-! ## A log that grows -/

/-- A new event is one since the last provision, unless it is the provision. -/
theorem since?_concat :
    since? (log ++ [event]) name =
      if event.provisions name then some [] else (log.since? name).map (· ++ [event]) := by
  by_cases h : event.provisions name = true
  · simp [since?, h]
  · have hany : (log ++ [event]).any (Event.provisions name) = log.any (Event.provisions name) := by
      simp [h]
    rw [since?, hany, since?, List.rtakeWhile_concat_pos _ _ _ (by simpa using h), if_neg h]
    split <;> rfl

/-- There is something since a provision of the node if there is one. -/
theorem isSome_since? : (log.since? name).isSome = log.any (Event.provisions name) := by
  rw [since?]
  split <;> simp_all

/-- The last event about the storage is the new one if that is about the storage. -/
theorem lastStorage?_concat :
    lastStorage? (log ++ [event]) = if event.isStorage then some event else log.lastStorage? := by
  by_cases h : event.isStorage = true <;> simp [lastStorage?, List.filter_append, h]

end EventLog

/-! ## What an event adds -/

/-- **The view of a node with what an event adds to it.** -/
def NodeView.extend (seen : NodeView) (name : String) (event : Event) : NodeView where
  bindings := seen.bindings ++ (event.bindingOn? name).toList
  files := seen.files ∪ (event.fileOn? name).toList.toFinset
  homeIp := (event.homeIpOn? name).or seen.homeIp
  released := seen.released || decide (event = .nodeReleased name)

namespace EventLog

variable {log : EventLog} {event : Event} {name : String}

theorem filterMap_concat {α : Type} (f : Event → Option α) :
    (log ++ [event]).filterMap f = log.filterMap f ++ (f event).toList := by
  cases h : f event <;> simp [List.filterMap_append, h]

/-- A new event extends what is seen of a node. -/
theorem view_concat : view (log ++ [event]) name = (view log name).extend name event := by
  ext file
  · simp only [view, filterMap_concat, NodeView.extend]
  · simp [view, NodeView.extend]
  · cases h : event.homeIpOn? name <;> simp [view, NodeView.extend, h]
  · have hlast : (Event.nodeReleased name = event) ↔ event = .nodeReleased name := eq_comm
    simp [view, NodeView.extend, hlast]

/-- **One more event in a replay**: it starts the node anew, or adds to what is seen of it. -/
theorem replay_node_concat :
    (replay (log ++ [event])).node name =
      if event.provisions name then some (view [] name)
      else (log.replay.node name).map (·.extend name event) := by
  simp only [replay, since?_concat]
  split
  · rfl
  · simp only [Option.map_map]
    congr 1
    funext since
    exact view_concat

theorem replay_storage_concat :
    (replay (log ++ [event])).storage =
      if event.isStorage then event.storage? else log.replay.storage := by
  simp only [replay, lastStorage?_concat]
  split <;> rfl

end EventLog

/-! ## One call -/

/-- An event about something else adds nothing. -/
theorem NodeView.extend_of_ne {seen : NodeView} {event : Event} {name : String}
    (h : event.node? ≠ some name) : seen.extend name event = seen := by
  cases event <;> ext <;>
    simp_all [extend, Event.node?, Event.bindingOn?, Event.fileOn?, Event.homeIpOn?]

/-- A register that is set has the name set beside those it had. -/
theorem Register.toFinset_names_set {α : Type} (register : Register α) (name : String) (value : α) :
    (register.set name value).names.toFinset = register.names.toFinset ∪ {name} := by
  ext other
  rw [Finset.mem_union, List.mem_toFinset, List.mem_toFinset, Finset.mem_singleton,
    mem_names_set, or_comm]

namespace Backend

variable {backend : Backend} {call : Call} {name : String}

/-- The event of a call is about what the call is about. -/
theorem node?_event : (backend.event call).node? = call.node? := by
  cases call <;> rfl

/-- **What a call makes of its node is what its event adds to the view.** -/
theorem map_view_onNode (h : call.node? = some name) (known : Option NodeState) :
    (call.onNode known).map NodeState.view =
      if (backend.event call).provisions name then some (EventLog.view [] name)
      else (known.map NodeState.view).map (·.extend name (backend.event call)) := by
  cases call with
  | provisionNode spec =>
    obtain rfl := Option.some.inj h
    simp [Call.onNode, event, Event.provisions, EventLog.view, NodeState.view, Register.names]
  | mountSharedHome | bindResource | nodeStatus | releaseNode =>
    obtain rfl := Option.some.inj h
    cases known with
    | none => rfl
    | some state =>
      refine congrArg some ?_
      ext <;> simp [event, NodeView.extend, NodeState.view, Event.bindingOn?, Event.fileOn?,
        Event.homeIpOn?]
  | writeNodeFile address file =>
    obtain rfl := Option.some.inj h
    cases known with
    | none => rfl
    | some state =>
      have hfile : (backend.event (.writeNodeFile address file)).fileOn? address.name = some file.name :=
        by simp [event, Event.fileOn?]
      refine congrArg some (NodeView.ext ?_ ?_ rfl ?_)
      · exact (List.append_nil _).symm
      · simp only [NodeView.extend, hfile]
        exact Register.toFinset_names_set state.files file.name _
      · simp [event, NodeView.extend, NodeState.view]
  | provisionSharedStorage | releaseSharedStorage => cases h

/-- Calls on a node log no event about the storage. -/
theorem isStorage_event_of_node (h : call.node? = some name) :
    (backend.event call).isStorage = false := by
  cases call <;> simp_all [Call.node?, event, Event.isStorage]

/-- **The log tells what the state shows.** -/
def MatchesLog (backend : Backend) : Prop :=
  backend.observation = backend.events.replay

/-- **One call keeps state and log in step**, even where its event tells nothing. -/
theorem MatchesLog.next (h : backend.MatchesLog) (call : Call) : (backend.next call).MatchesLog := by
  rw [MatchesLog] at h ⊢
  rw [next_events]
  ext1
  · funext name
    rw [EventLog.replay_node_concat, ← h]
    by_cases hnode : call.node? = some name
    · simp only [observation]
      rw [next_get?_self hnode, map_view_onNode hnode]
    · have hother : (backend.event call).node? ≠ some name := by rwa [node?_event]
      have hold : ¬ (backend.event call).provisions name := by
        rintro hnew
        obtain ⟨ip, hevent⟩ := Event.provisions_iff.mp hnew
        exact hother (by rw [hevent, Event.node?])
      simp only [observation]
      rw [next_get?_of_ne hnode, if_neg hold]
      simp [NodeView.extend_of_ne hother, Function.comp_def]
  · rw [EventLog.replay_storage_concat, ← h]
    cases hnode : call.node? with
    | some name =>
      rw [isStorage_event_of_node hnode]
      simp only [observation]
      rw [next_storage_of_node hnode]
      rfl
    | none => cases call <;> first | rfl | cases hnode

/-- **State and log never drift apart** over calls on a new backend, whichever of them fail. -/
theorem matchesLog_performAll (scenario : Scenario) (calls : List Call) :
    (performAll { scenario } calls).MatchesLog := by
  have hnew : MatchesLog { scenario } := rfl
  exact performAll_of_invariant hnew (fun _ call h _ => h.next call) calls

end Backend

end DatasetHosting
