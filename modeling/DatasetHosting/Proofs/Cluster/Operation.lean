import DatasetHosting.Cluster.Call

/-!
# Proofs/Cluster/Operation — a call is a check, an obstacle, an effect and an event

Every operation of the backend has the same four parts, which `Backend.perform_eq` separates:

* the scenario may make it fail on its target;
* the state may stand in its way (`Backend.obstacle?`): storage or a node is not there;
* otherwise it has an effect on the state (`Backend.effect`),
* and adds one event to the log (`Call.event`).

Everything about sequences of calls is read off these parts; no operation is opened again.
-/

namespace DatasetHosting

/-! ## The parts of a call -/

/-- What an injected failure of the call names. -/
def Call.target : Call → String
  | provisionSharedStorage dataset _ => dataset.id
  | provisionNode spec => spec.name
  | mountSharedHome node _ => node.name
  | bindResource node _ => node.name
  | writeNodeFile node _ => node.name
  | nodeStatus node => node.name
  | releaseNode node => node.name
  | releaseSharedStorage => Backend.sharedHomeIp

/-- Whether the scenario lets the call through. -/
def Scenario.permits (scenario : Scenario) (call : Call) : Bool :=
  !scenario.fails call.operation call.target

namespace Backend

/-- The event that a backend logs for the call. -/
def event (backend : Backend) : Call → Event
  | .provisionSharedStorage dataset plan =>
    .sharedStorageProvisioned dataset.id plan.exportSubnet
      (backend.storageFor dataset plan).objectStore.isSome
  | .provisionNode spec => .nodeProvisioned spec.name (nodeIp spec.index)
  | .mountSharedHome node home => .sharedHomeMounted node.name home.ip
  | .bindResource node binding => .resourceBound node.name binding
  | .writeNodeFile node file => .fileWritten node.name file.name
  | .nodeStatus node => .statusQueried node.name
  | .releaseNode node => .nodeReleased node.name
  | .releaseSharedStorage => .sharedStorageReleased

/-- What a backend answers to the call. -/
def answer (backend : Backend) : Call → Answer
  | .provisionSharedStorage dataset plan => .storage (backend.storageFor dataset plan)
  | .provisionNode spec => .node ⟨spec.name, nodeIp spec.index⟩
  | .nodeStatus node => .status ((backend.scenario.statuses.get? node.name).getD runningStatus)
  | _ => .done

/-- Whether a node is known that the call is about. -/
def unknown? (backend : Backend) (name : String) : Option BackendError :=
  if (backend.nodes.get? name).isSome then none else some (.unknownNode name)

/-- What the state has against a binding of the given placement. -/
def unready? (backend : Backend) (name : String) : Placement → Option BackendError
  | .nodeLocal => none
  | .sharedHome =>
    match backend.nodes.get? name with
    | none => some (.unknownNode name)
    | some state => if state.mounted.isSome then none else some (.storageNotReady name)
  | .objectStore =>
    if backend.storage.any (·.objectStore.isSome) then none else some (.storageNotReady name)

/-- **What the state has against the call**, the first reason if there are two. -/
def obstacle? (backend : Backend) : Call → Option BackendError
  | .mountSharedHome node _ =>
    if backend.storage.isNone then some (.storageNotReady node.name) else backend.unknown? node.name
  | .bindResource node binding =>
    (backend.unready? node.name binding.placement).or (backend.unknown? node.name)
  | .writeNodeFile node _ => backend.unknown? node.name
  | .releaseNode node => backend.unknown? node.name
  | _ => none

/-- The backend with what is known about a node changed. -/
def modifyNode (backend : Backend) (name : String) (change : NodeState → NodeState) : Backend :=
  match backend.nodes.get? name with
  | some state => backend.setNode name (change state)
  | none => backend

/-- **What the call does to the state.** -/
def effect (backend : Backend) : Call → Backend
  | .provisionSharedStorage dataset plan =>
    { backend with storage := some (backend.storageFor dataset plan) }
  | .provisionNode spec => backend.setNode spec.name {}
  | .mountSharedHome node home =>
    backend.modifyNode node.name fun state => { state with mounted := some home }
  | .bindResource node binding =>
    backend.modifyNode node.name fun state => { state with bindings := state.bindings ++ [binding] }
  | .writeNodeFile node file =>
    backend.modifyNode node.name fun state =>
      { state with files := state.files.set file.name (fileAfter (state.files.get? file.name) file) }
  | .nodeStatus _ => backend
  | .releaseNode node =>
    backend.modifyNode node.name fun state => { state with released := true }
  | .releaseSharedStorage => { backend with storage := none }

/-- The backend that has carried out the call. -/
def next (backend : Backend) (call : Call) : Backend :=
  (backend.effect call).record (backend.event call)

/-! ## The parts make up the call -/

variable {backend : Backend} {call : Call}

/-- An operation that starts with a check fails with it. -/
theorem answering_of_check_error {α : Type} {answer : α → Answer} {operation : Operation}
    {target : String} {rest : Unit → Except BackendError (α × Backend)} {error : BackendError}
    (h : backend.check operation target = .error error) :
    answering answer (backend.check operation target >>= rest) = .error error := by
  rw [h]
  rfl

/-- **Every operation starts with its check.** -/
theorem perform_of_not_permits (h : backend.scenario.permits call = false) :
    backend.perform call = .error (.injected call.operation call.target) := by
  have hc : backend.check call.operation call.target =
      .error (.injected call.operation call.target) := by
    rw [check, if_pos (by simpa [Scenario.permits] using h)]
  cases call with
  | provisionSharedStorage =>
    rw [perform, provisionSharedStorage]
    exact answering_of_check_error hc
  | provisionNode =>
    rw [perform, provisionNode]
    exact answering_of_check_error hc
  | mountSharedHome =>
    rw [perform, mountSharedHome]
    exact answering_of_check_error hc
  | bindResource =>
    rw [perform, bindResource]
    exact answering_of_check_error hc
  | writeNodeFile =>
    rw [perform, writeNodeFile]
    exact answering_of_check_error hc
  | nodeStatus =>
    rw [perform, nodeStatus]
    exact answering_of_check_error hc
  | releaseNode =>
    rw [perform, releaseNode]
    exact answering_of_check_error hc
  | releaseSharedStorage =>
    rw [perform, releaseSharedStorage]
    exact answering_of_check_error hc

/-- A call that the scenario lets through is stopped by its obstacle only. -/
theorem perform_of_permits (h : backend.scenario.permits call = true) :
    backend.perform call =
      match backend.obstacle? call with
      | none => .ok (backend.answer call, backend.next call)
      | some error => .error error := by
  have hc : backend.check call.operation call.target = .ok () := by
    rw [check, if_neg (by simpa [Scenario.permits] using h)]
  cases call with
  | provisionSharedStorage dataset plan =>
    change backend.check .provisionSharedStorage dataset.id = .ok () at hc
    rw [perform, provisionSharedStorage, hc]
    rfl
  | provisionNode spec =>
    change backend.check .provisionNode spec.name = .ok () at hc
    rw [perform, provisionNode, hc]
    rfl
  | mountSharedHome node home =>
    change backend.check .mountSharedHome node.name = .ok () at hc
    rw [perform, mountSharedHome, hc, obstacle?, unknown?, next, effect, modifyNode, Backend.node]
    cases backend.storage with
    | none => rfl
    | some storage => cases backend.nodes.get? node.name <;> rfl
  | bindResource node binding =>
    change backend.check .bindResource node.name = .ok () at hc
    rw [perform, bindResource, hc, obstacle?, unknown?, next, effect, modifyNode, Backend.node]
    cases hp : binding.placement with
    | nodeLocal => cases backend.nodes.get? node.name <;> rfl
    | sharedHome =>
      rw [isReady, unready?, Backend.node]
      cases backend.nodes.get? node.name with
      | none => rfl
      | some state =>
        obtain ⟨mounted, bindings, files, released⟩ := state
        cases mounted <;> rfl
    | objectStore =>
      rw [isReady, unready?]
      cases backend.storage.any (·.objectStore.isSome) with
      | false => rfl
      | true => cases backend.nodes.get? node.name <;> rfl
  | writeNodeFile node file =>
    change backend.check .writeNodeFile node.name = .ok () at hc
    rw [perform, writeNodeFile, hc, obstacle?, unknown?, next, effect, modifyNode, Backend.node]
    cases backend.nodes.get? node.name <;> rfl
  | nodeStatus node =>
    change backend.check .nodeStatus node.name = .ok () at hc
    rw [perform, nodeStatus, hc]
    rfl
  | releaseNode node =>
    change backend.check .releaseNode node.name = .ok () at hc
    rw [perform, releaseNode, hc, obstacle?, unknown?, next, effect, modifyNode, Backend.node]
    cases backend.nodes.get? node.name <;> rfl
  | releaseSharedStorage =>
    change backend.check .releaseSharedStorage sharedHomeIp = .ok () at hc
    rw [perform, releaseSharedStorage, hc]
    rfl

/-- **A call in its parts.** -/
theorem perform_eq (backend : Backend) (call : Call) :
    backend.perform call =
      if backend.scenario.permits call then
        match backend.obstacle? call with
        | none => .ok (backend.answer call, backend.next call)
        | some error => .error error
      else .error (.injected call.operation call.target) := by
  split
  next h => exact perform_of_permits h
  next h => exact perform_of_not_permits (by simpa using h)

/-- **A call succeeds** if the scenario permits it and nothing stands in its way; it then answers and
changes the backend as said. -/
theorem perform_eq_ok_iff {answer : Answer} {after : Backend} :
    backend.perform call = .ok (answer, after) ↔
      backend.scenario.permits call = true ∧ backend.obstacle? call = none ∧
        backend.answer call = answer ∧ backend.next call = after := by
  rw [perform_eq]
  cases backend.scenario.permits call <;> cases backend.obstacle? call <;> simp

/-- **A call fails** as the scenario says, or else with what stands in its way. -/
theorem perform_eq_error_iff {error : BackendError} :
    backend.perform call = .error error ↔
      (backend.scenario.permits call = false ∧
        error = .injected call.operation call.target) ∨
      (backend.scenario.permits call = true ∧ backend.obstacle? call = some error) := by
  rw [perform_eq]
  cases backend.scenario.permits call <;> cases backend.obstacle? call <;> simp [eq_comm]

/-! ## What a call leaves alone -/

section Frame

variable {name other : String} {change : NodeState → NodeState}

@[simp] theorem modifyNode_scenario :
    (backend.modifyNode name change).scenario = backend.scenario := by
  rw [modifyNode]
  split <;> rfl

@[simp] theorem modifyNode_storage :
    (backend.modifyNode name change).storage = backend.storage := by
  rw [modifyNode]
  split <;> rfl

@[simp] theorem modifyNode_events : (backend.modifyNode name change).events = backend.events := by
  rw [modifyNode]
  split <;> rfl

/-- The node that is modified is the one named. -/
theorem modifyNode_get?_self :
    (backend.modifyNode name change).nodes.get? name = (backend.nodes.get? name).map change := by
  rw [modifyNode]
  cases h : backend.nodes.get? name with
  | none => exact h
  | some state => exact Register.get?_set_self _ _ _

/-- No other node is. -/
theorem modifyNode_get?_of_ne (h : other ≠ name) :
    (backend.modifyNode name change).nodes.get? other = backend.nodes.get? other := by
  rw [modifyNode]
  split
  · exact Register.get?_set_of_ne _ _ h
  · rfl

end Frame

@[simp] theorem next_scenario (backend : Backend) (call : Call) :
    (backend.next call).scenario = backend.scenario := by
  cases call <;> simp [next, effect, record, setNode]

/-- **A call adds exactly one event.** -/
@[simp] theorem next_events (backend : Backend) (call : Call) :
    (backend.next call).events = backend.events ++ [backend.event call] := by
  cases call <;> simp [next, effect, record, setNode]

/-- The events of calls depend on the scenario only. -/
theorem event_next (backend : Backend) (call : Call) : (backend.next call).event = backend.event := by
  funext later
  cases later <;> simp [event, storageFor]

end Backend

end DatasetHosting
