import DatasetHosting.Proofs.Cluster.Observation

/-!
# Proofs/Cluster/InPlace — calls that change a backend step by step

`Backend.perform` answers with the next backend or with an error, so a call that fails has nothing to leave
behind.  Here the same calls are steps on one backend that is changed in place and keeps what was done to it
before a failure: the check of the scenario, look-ups that may fail, changes one at a time, the event last.

Both are the same (`InPlace.call_eq`), so no step that can fail comes behind one that changes something.  A call
is therefore carried out as a whole or not at all, and what it changes is its own node or the storage
(`Backend.call_atomic_and_local`).
-/

namespace DatasetHosting

/-- **Steps on one backend.**  What was done before a failure stays done. -/
abbrev InPlace (α : Type) := ExceptT BackendError (StateM Backend) α

namespace InPlace

/-! ## Steps -/

/-- Fails if the scenario says so. -/
def check (operation : Operation) (target : String) : InPlace Unit := do
  if (← get).scenario.fails operation target then throw (.injected operation target)

/-- What is known about a node. -/
def look (name : String) : InPlace NodeState := do
  match (← get).nodes.get? name with
  | some state => return state
  | none => throw (.unknownNode name)

/-- Changes what is known about a node. -/
def changeNode (name : String) (change : NodeState → NodeState) : InPlace Unit := do
  let state ← look name
  modify (·.setNode name (change state))

/-- Sets the storage. -/
def setStorage (storage : Option SharedStorage) : InPlace Unit :=
  modify fun backend => { backend with storage := storage }

/-- Logs an event. -/
def log (event : Event) : InPlace Unit :=
  modify (·.record event)

/-- Whether content of the placement can be bound on the node. -/
def ready (name : String) : Placement → InPlace Bool
  | .nodeLocal => return true
  | .sharedHome => do return (← look name).mounted.isSome
  | .objectStore => do return (← get).storage.any (·.objectStore.isSome)

/-- Fails if content of the placement cannot be bound on the node. -/
def demandReady (name : String) (placement : Placement) : InPlace Unit := do
  if !(← ready name placement) then throw (.storageNotReady name)

/-- The text of a file, empty if there is none. -/
def textOf (state : NodeState) (name : String) : String :=
  (state.files.get? name).getD ""

/-- The node with another text in a file. -/
def withText (name text : String) (state : NodeState) : NodeState :=
  { state with files := state.files.set name text }

/-- Writes a file: it is there before it is emptied, and emptied before the text goes behind what it holds. -/
def write (node : String) (file : NodeFile) : InPlace Unit := do
  changeNode node fun state => withText file.name (textOf state file.name) state
  if !file.append then changeNode node (withText file.name "")
  changeNode node fun state => withText file.name (textOf state file.name ++ file.contents) state

/-! ## Calls -/

/-- **Carries out a call in steps.** -/
def call : Call → InPlace Answer
  | .provisionSharedStorage dataset plan => do
    check .provisionSharedStorage dataset.id
    let storage := (← get).storageFor dataset plan
    setStorage (some storage)
    log (.sharedStorageProvisioned dataset.id plan.exportSubnet storage.objectStore.isSome)
    return .storage storage
  | .provisionNode spec => do
    check .provisionNode spec.name
    modify (·.setNode spec.name {})
    log (.nodeProvisioned spec.name (Backend.nodeIp spec.index))
    return .node ⟨spec.name, Backend.nodeIp spec.index⟩
  | .mountSharedHome node home => do
    check .mountSharedHome node.name
    if (← get).storage.isNone then throw (.storageNotReady node.name)
    changeNode node.name fun state => { state with mounted := some home }
    log (.sharedHomeMounted node.name home.ip)
    return .done
  | .bindResource node binding => do
    check .bindResource node.name
    demandReady node.name binding.placement
    changeNode node.name fun state => { state with bindings := state.bindings ++ [binding] }
    log (.resourceBound node.name binding)
    return .done
  | .writeNodeFile node file => do
    check .writeNodeFile node.name
    write node.name file
    log (.fileWritten node.name file.name)
    return .done
  | .nodeStatus node => do
    check .nodeStatus node.name
    log (.statusQueried node.name)
    return .status (((← get).scenario.statuses.get? node.name).getD runningStatus)
  | .releaseNode node => do
    check .releaseNode node.name
    changeNode node.name fun state => { state with released := true }
    log (.nodeReleased node.name)
    return .done
  | .releaseSharedStorage => do
    check .releaseSharedStorage Backend.sharedHomeIp
    setStorage none
    log .sharedStorageReleased
    return .done

end InPlace

/-- What a call answers, and the backend that it leaves behind. -/
def Backend.outcome (backend : Backend) (call : Call) : Except BackendError Answer × Backend :=
  match backend.perform call with
  | .ok (answer, next) => (.ok answer, next)
  | .error error => (.error error, backend)

namespace InPlace

/-! ## What the steps do -/

variable {backend : Backend} {name : String} {state : NodeState} {change : NodeState → NodeState}

section Bind

variable {α β : Type} {after : Backend} {step : InPlace α} {next : α → InPlace β}

/-- After a step that succeeds the next one starts where it stopped. -/
theorem bind_of_ok {value : α} (h : step backend = (.ok value, after)) :
    (step >>= next) backend = next value after := by
  change (step backend >>= fun result => ExceptT.bindCont next result.1 result.2) = _
  rw [h]
  rfl

/-- After a step that fails nothing is done. -/
theorem bind_of_error {error : BackendError} (h : step backend = (.error error, after)) :
    (step >>= next) backend = (.error error, after) := by
  change (step backend >>= fun result => ExceptT.bindCont next result.1 result.2) = _
  rw [h]
  rfl

end Bind

theorem get_apply (backend : Backend) : (get : InPlace Backend) backend = (.ok backend, backend) :=
  rfl

/-- What the scenario permits passes the check. -/
theorem check_of_permits {call : Call} (h : backend.scenario.permits call = true) :
    check call.operation call.target backend = (.ok (), backend) := by
  have hfails : backend.scenario.fails call.operation call.target = false := by
    simpa [Scenario.permits] using h
  rw [check, bind_of_ok (get_apply backend), hfails]
  rfl

/-- What it does not permit fails as injected, before anything has changed. -/
theorem check_of_not_permits {call : Call} (h : backend.scenario.permits call = false) :
    check call.operation call.target backend =
      (.error (.injected call.operation call.target), backend) := by
  have hfails : backend.scenario.fails call.operation call.target = true := by
    simpa [Scenario.permits] using h
  rw [check, bind_of_ok (get_apply backend), hfails]
  rfl

theorem look_of_some (h : backend.nodes.get? name = some state) :
    look name backend = (.ok state, backend) := by
  rw [look, bind_of_ok (get_apply backend), h]
  rfl

theorem look_of_none (h : backend.nodes.get? name = none) :
    look name backend = (.error (.unknownNode name), backend) := by
  rw [look, bind_of_ok (get_apply backend), h]
  rfl

/-! ## Changes of one node -/

/-- **The step changes the node, or it is not known and nothing happens.** -/
def Changes (step : InPlace Unit) (backend : Backend) (name : String)
    (change : NodeState → NodeState) : Prop :=
  step backend =
    match backend.unknown? name with
    | none => (.ok (), backend.modifyNode name change)
    | some error => (.error error, backend)

/-- A step changes a node if it does so where the node is known and fails where it is not. -/
theorem changes_iff {step : InPlace Unit} :
    Changes step backend name change ↔
      (∀ state, backend.nodes.get? name = some state →
        step backend = (.ok (), backend.setNode name (change state))) ∧
      (backend.nodes.get? name = none → step backend = (.error (.unknownNode name), backend)) := by
  rw [Changes, Backend.unknown?, Backend.modifyNode]
  cases backend.nodes.get? name <;> simp

theorem changeNode_of_some (h : backend.nodes.get? name = some state) :
    changeNode name change backend = (.ok (), backend.setNode name (change state)) := by
  rw [changeNode, bind_of_ok (look_of_some h)]
  rfl

theorem changeNode_of_none (h : backend.nodes.get? name = none) :
    changeNode name change backend = (.error (.unknownNode name), backend) := by
  rw [changeNode, bind_of_error (look_of_none h)]

theorem changes_changeNode : Changes (changeNode name change) backend name change :=
  changes_iff.mpr ⟨fun _ => changeNode_of_some, changeNode_of_none⟩

@[simp] theorem textOf_withText (name text : String) (state : NodeState) :
    textOf (withText name text state) name = text := by
  simp [textOf, withText]

@[simp] theorem withText_withText (name first text : String) (state : NodeState) :
    withText name text (withText name first state) = withText name text state := by
  simp [withText]

/-- A node changed again is changed from what the change before made of it. -/
theorem changeNode_setNode (name : String) (state : NodeState) (backend : Backend) :
    changeNode name change (backend.setNode name state) =
      (.ok (), backend.setNode name (change state)) := by
  have hknown : (backend.setNode name state).nodes.get? name = some state :=
    Register.get?_set_self _ _ _
  rw [changeNode_of_some hknown, Backend.setNode, Backend.setNode, Backend.setNode, Register.set_set]

/-- **Writing in steps comes to one change** of the file. -/
theorem changes_write (file : NodeFile) :
    Changes (write name file) backend name fun state =>
      withText file.name (Backend.fileAfter (state.files.get? file.name) file) state := by
  refine changes_iff.mpr ⟨fun state h => ?_, fun h => bind_of_error (changeNode_of_none h)⟩
  rw [write, bind_of_ok (changeNode_of_some h), Backend.fileAfter]
  cases happend : file.append with
  | true =>
    refine (changeNode_setNode _ _ _).trans ?_
    rw [textOf_withText, withText_withText]
    rfl
  | false =>
    refine (bind_of_ok (changeNode_setNode _ _ _)).trans ((changeNode_setNode _ _ _).trans ?_)
    rw [textOf_withText, withText_withText, withText_withText, String.empty_append]
    rfl

/-- A change of a node with its event behind it. -/
theorem Changes.thenLog {step : InPlace Unit} (h : Changes step backend name change) (event : Event) :
    (do step; log event; return .done : InPlace Answer) backend =
      match backend.unknown? name with
      | none => (.ok .done, (backend.modifyNode name change).record event)
      | some error => (.error error, backend) := by
  rw [Changes] at h
  cases hname : backend.unknown? name with
  | none =>
    rw [hname] at h
    exact bind_of_ok h
  | some error =>
    rw [hname] at h
    exact bind_of_error h

/-- What stands in the way of a binding is found before anything is changed. -/
theorem demandReady_eq (name : String) (placement : Placement) (backend : Backend) :
    demandReady name placement backend =
      match backend.unready? name placement with
      | none => (.ok (), backend)
      | some error => (.error error, backend) := by
  cases placement with
  | nodeLocal => rfl
  | sharedHome =>
    rw [Backend.unready?]
    cases hnode : backend.nodes.get? name with
    | none =>
      have hready : ready name .sharedHome backend = (.error (.unknownNode name), backend) :=
        bind_of_error (look_of_none hnode)
      exact bind_of_error hready
    | some state =>
      have hready : ready name .sharedHome backend = (.ok state.mounted.isSome, backend) :=
        bind_of_ok (look_of_some hnode)
      refine (bind_of_ok hready).trans ?_
      simp only
      cases state.mounted.isSome <;> rfl
  | objectStore =>
    refine (bind_of_ok (get_apply backend)).trans ?_
    rw [Backend.unready?]
    cases backend.storage.any (·.objectStore.isSome) <;> rfl

/-! ## The steps make up the call -/

/-- What the state has against the call, or what the call comes to. -/
theorem outcome_of_permits {call : Call} (h : backend.scenario.permits call = true) :
    backend.outcome call =
      match backend.obstacle? call with
      | none => (.ok (backend.answer call), backend.next call)
      | some error => (.error error, backend) := by
  rw [Backend.outcome, Backend.perform_of_permits h]
  cases backend.obstacle? call <;> rfl

/-- **A call in steps is the call.** -/
theorem call_eq (call : Call) (backend : Backend) :
    InPlace.call call backend = backend.outcome call := by
  cases hp : backend.scenario.permits call with
  | false =>
    have hstopped : backend.outcome call =
        (.error (.injected call.operation call.target), backend) := by
      rw [Backend.outcome, Backend.perform_of_not_permits hp]
    rw [hstopped]
    cases call <;> exact bind_of_error (check_of_not_permits hp)
  | true =>
    rw [outcome_of_permits hp]
    cases call with
    | provisionSharedStorage | provisionNode | nodeStatus | releaseSharedStorage =>
      exact (bind_of_ok (check_of_permits hp)).trans rfl
    | mountSharedHome node home =>
      refine (bind_of_ok (check_of_permits hp)).trans ?_
      refine (bind_of_ok (get_apply backend)).trans ?_
      rw [Backend.obstacle?]
      cases backend.storage with
      | none => rfl
      | some storage => exact changes_changeNode.thenLog _
    | bindResource node binding =>
      refine (bind_of_ok (check_of_permits hp)).trans ?_
      rw [Backend.obstacle?]
      have hready := demandReady_eq node.name binding.placement backend
      cases hfound : backend.unready? node.name binding.placement with
      | none =>
        rw [hfound] at hready
        exact (bind_of_ok hready).trans (changes_changeNode.thenLog _)
      | some error =>
        rw [hfound] at hready
        exact bind_of_error hready
    | writeNodeFile node file =>
      exact (bind_of_ok (check_of_permits hp)).trans ((changes_write file).thenLog _)
    | releaseNode node =>
      exact (bind_of_ok (check_of_permits hp)).trans (changes_changeNode.thenLog _)

end InPlace

/-! ## What a call leaves alone -/

/-- The operation that an event tells of. -/
def Event.operation : Event → Operation
  | sharedStorageProvisioned .. => .provisionSharedStorage
  | nodeProvisioned .. => .provisionNode
  | sharedHomeMounted .. => .mountSharedHome
  | resourceBound .. => .bindResource
  | fileWritten .. => .writeNodeFile
  | statusQueried _ => .nodeStatus
  | nodeReleased _ => .releaseNode
  | sharedStorageReleased => .releaseSharedStorage

/-- **A call reaches no further than its own node, or the storage.** -/
structure Backend.ChangesLocally (backend : Backend) (call : Call) (later : Backend) : Prop where
  /-- What the scenario lays down stays. -/
  scenario : later.scenario = backend.scenario
  /-- One event is logged, of the call's operation and about the call's node. -/
  events : ∃ event, later.events = backend.events ++ [event] ∧
    event.operation = call.operation ∧ event.node? = call.node?
  /-- No other node changes. -/
  others : ∀ name, call.node? ≠ some name → later.nodes.get? name = backend.nodes.get? name
  /-- A call about a node leaves the storage alone, … -/
  storage : call.node?.isSome = true → later.storage = backend.storage
  /-- … and a call about the storage the nodes. -/
  nodes : call.node? = none → later.nodes = backend.nodes
  /-- A node becomes known by being provisioned only, and no node is forgotten. -/
  known : call.operation ≠ .provisionNode →
    ∀ name, name ∈ later.nodes.names ↔ name ∈ backend.nodes.names

namespace Backend

variable {call : Call}

/-- **Every event is logged by the operation it belongs to.** -/
theorem operation_event (backend : Backend) (call : Call) :
    (backend.event call).operation = call.operation := by
  cases call <;> rfl

/-- Calls about the storage leave all nodes as they are. -/
theorem next_nodes_of_storage (backend : Backend) (h : call.node? = none) :
    (backend.next call).nodes = backend.nodes := by
  cases call with
  | provisionSharedStorage | releaseSharedStorage => rfl
  | _ => cases h

/-- A call makes nothing known of its node unless it provisions it. -/
theorem isSome_onNode_of_ne (h : call.operation ≠ .provisionNode) (known : Option NodeState) :
    (call.onNode known).isSome = known.isSome := by
  cases call with
  | provisionNode => exact absurd rfl h
  | _ => simp [Call.onNode]

/-- Only the provision of a node adds a name. -/
theorem mem_names_next (backend : Backend) (h : call.operation ≠ .provisionNode) (name : String) :
    name ∈ (backend.next call).nodes.names ↔ name ∈ backend.nodes.names := by
  rw [Register.mem_names_iff, Register.mem_names_iff]
  by_cases hn : call.node? = some name
  · rw [next_get?_self hn, isSome_onNode_of_ne h]
  · rw [next_get?_of_ne hn]

/-- **What a call that succeeds changes is its own**: its node, its part of the storage and the event it
logs. -/
theorem changesLocally_next (backend : Backend) (call : Call) :
    backend.ChangesLocally call (backend.next call) where
  scenario := next_scenario backend call
  events := ⟨backend.event call, next_events backend call, operation_event backend call, node?_event⟩
  others _ h := next_get?_of_ne h
  storage h := by
    obtain ⟨name, hname⟩ := Option.isSome_iff_exists.mp h
    exact next_storage_of_node hname
  nodes h := next_nodes_of_storage backend h
  known h := mem_names_next backend h

/-- **Calls are atomic and local.**  Carried out in steps, a call that fails leaves the backend and its log as
they were, and one that succeeds changes only what it is about. -/
theorem call_atomic_and_local (backend : Backend) (call : Call) :
    InPlace.call call backend = backend.outcome call ∧
      match InPlace.call call backend with
      | (.error _, later) => later = backend
      | (.ok _, later) => backend.ChangesLocally call later := by
  have hcall := InPlace.call_eq call backend
  refine ⟨hcall, ?_⟩
  rw [hcall, outcome]
  cases hperform : backend.perform call with
  | error error => rfl
  | ok carried =>
    obtain ⟨answer, later⟩ := carried
    obtain ⟨-, -, -, rfl⟩ := perform_eq_ok_iff.mp hperform
    exact changesLocally_next backend call

end Backend

end DatasetHosting
