import DatasetHosting.Proofs.Cluster.Readiness
import DatasetHosting.Proofs.Cluster.RollBack
import DatasetHosting.Proofs.Storage.Plan

/-!
# Proofs/Cluster/DataCenter — hosting on a data center, step by step

Unless it refuses the dataset (`Formula.refusal?`), hosting on a data center takes a fixed sequence of
steps (`Formula.buildSteps`): provision the storage, find the bindings, and make the calls that build the
nodes.  Only the scenario or a missing object store can make one of them fail (`BuildStep.failure?`).
Before the bindings are looked for there has to be room for the addresses, and before the nodes are built for
the nodes; a run without it breaks off.  `Formula.Ends` lists the ways in which a run ends, with the backend
that each leaves.
-/

namespace DatasetHosting

/-! ## The steps -/

/-- One step of hosting on a data center. -/
inductive BuildStep where
  /-- A call of the backend. -/
  | call (made : Call)
  /-- Finding the bindings. -/
  | bind (result : Except MissingObjectStore (List Binding))

namespace BuildStep

/-- **How the step fails**, if it does. -/
def failure? (scenario : Scenario) : BuildStep → Option Failure
  | call made =>
    if scenario.permits made then none
    else some (.backend (.injected made.operation made.target))
  | bind (.error error) => some (.formula (.missingObjectStore error))
  | bind (.ok _) => none

/-- The call that the step makes, if it makes one. -/
def call? : BuildStep → Option Call
  | call made => some made
  | bind _ => none

theorem filterMap_call?_map_call (calls : List Call) :
    (calls.map BuildStep.call).filterMap BuildStep.call? = calls := by
  rw [List.filterMap_map]
  exact List.filterMap_some

end BuildStep

namespace Formula

variable {dataset : Dataset} {nodes : UInt64} {config : StorageConfig} {minFormat : Option UInt32}
  {session : Session}

/-- The storage that a backend provides to a data center. -/
def storageOf (backend : Backend) (dataset : Dataset) (config : StorageConfig) : SharedStorage :=
  backend.storageFor dataset (.ofConfig config)

/-- The call for the storage of a data center. -/
def storageCall (dataset : Dataset) (config : StorageConfig) : Call :=
  .provisionSharedStorage dataset (.ofConfig config)

/-- What its nodes get with the given bindings. -/
def setupOf (backend : Backend) (dataset : Dataset) (config : StorageConfig)
    (bindings : List Binding) : NodeSetup :=
  setupFor dataset (storageOf backend dataset config) bindings

/-- The calls that build its nodes. -/
def buildCalls (backend : Backend) (dataset : Dataset) (nodes : UInt64) (config : StorageConfig)
    (bindings : List Binding) : List Call :=
  nodesCalls (setupOf backend dataset config bindings) 0 nodes.toNat

/-- **The steps of hosting on a data center.**  Without bindings there is nothing to build. -/
def buildSteps (backend : Backend) (dataset : Dataset) (nodes : UInt64) (config : StorageConfig) :
    List BuildStep :=
  .call (storageCall dataset config) ::
    match (Plan.ofConfig config).bindings (storageOf backend dataset config) with
    | .error error => [.bind (.error error)]
    | .ok bindings =>
      .bind (.ok bindings) :: (buildCalls backend dataset nodes config bindings).map .call

theorem buildSteps_of_error {backend : Backend} {error : MissingObjectStore}
    (h : (Plan.ofConfig config).bindings (storageOf backend dataset config) = .error error) :
    buildSteps backend dataset nodes config =
      [.call (storageCall dataset config), .bind (.error error)] := by
  rw [buildSteps, h]

theorem buildSteps_of_ok {backend : Backend} {bindings : List Binding}
    (h : (Plan.ofConfig config).bindings (storageOf backend dataset config) = .ok bindings) :
    buildSteps backend dataset nodes config =
      .call (storageCall dataset config) :: .bind (.ok bindings) ::
        (buildCalls backend dataset nodes config bindings).map .call := by
  rw [buildSteps, h]

/-- The calls among the steps of a build that has its bindings. -/
theorem filterMap_call?_buildSteps {backend : Backend} {bindings : List Binding}
    (h : (Plan.ofConfig config).bindings (storageOf backend dataset config) = .ok bindings) :
    (buildSteps backend dataset nodes config).filterMap BuildStep.call? =
      storageCall dataset config :: buildCalls backend dataset nodes config bindings := by
  rw [buildSteps_of_ok h]
  exact congrArg (storageCall dataset config :: ·) (BuildStep.filterMap_call?_map_call _)

/-! ## Refusals -/

theorem checkFormat_eq_ok_iff :
    dataset.checkFormat minFormat = .ok () ↔
      ∀ least, minFormat = some least → least ≤ dataset.format := by
  cases minFormat with
  | none => exact iff_of_true rfl fun least h => by cases h
  | some least =>
    rw [Dataset.checkFormat]
    by_cases h : dataset.format < least
    · rw [if_pos h]
      exact iff_of_false (by rintro ⟨⟩) fun hall => absurd h (UInt32.not_lt.mpr (hall least rfl))
    · rw [if_neg h]
      refine ⟨fun _ other hother => ?_, fun _ => rfl⟩
      obtain rfl := Option.some.inj hother
      exact UInt32.not_lt.mp h

/-- **Why a data center is refused** before the backend is asked. -/
def refusal? (dataset : Dataset) (nodes : UInt64) (minFormat : Option UInt32) :
    Option FormulaError :=
  match dataset.checkFormat minFormat with
  | .error error => some error
  | .ok () => if nodes < Strategy.minNodes then some (.tooFewNodes nodes) else none

theorem refusal?_eq_none_iff :
    refusal? dataset nodes minFormat = none ↔
      dataset.checkFormat minFormat = .ok () ∧ ¬nodes < Strategy.minNodes := by
  rw [refusal?]
  cases dataset.checkFormat minFormat with
  | error error => exact iff_of_false (by rintro ⟨⟩) (by rintro ⟨⟨⟩, -⟩)
  | ok => by_cases h : nodes < Strategy.minNodes <;> simp [h]

/-- **A refused run leaves everything as it was.** -/
theorem provisionDataCenter_of_refusal {error : FormulaError}
    (h : refusal? dataset nodes minFormat = some error) (config : StorageConfig) (session : Session) :
    provisionDataCenter dataset nodes config minFormat session =
      (.error (.formula error), session) := by
  rw [refusal?] at h
  rw [provisionDataCenter]
  cases hcheck : dataset.checkFormat minFormat with
  | error cause =>
    rw [hcheck] at h
    obtain rfl := Option.some.inj h
    rfl
  | ok =>
    rw [hcheck] at h
    have hfirst : (refuse (.ok ()) : Run Unit) session = (.ok (), session) := rfl
    refine (Run.bind_of_ok hfirst).trans ?_
    by_cases hnodes : nodes < Strategy.minNodes
    · rw [if_pos hnodes] at h
      obtain rfl := Option.some.inj h
      rw [if_pos hnodes]
      rfl
    · rw [if_neg hnodes] at h
      cases h

/-! ## Behind the storage -/

/-- What hosting makes of a build: a cluster, or a roll-back and the failure that halted it. -/
def conclude (dataset : Dataset) (storage : SharedStorage) :
    Except Halt (List ProvisionedNode) → Run Cluster
  | .ok built => return ⟨.dataCenter, dataset.id, built, some storage, none⟩
  | .error halt => do
    Run.report .warn "rolling back partial Data Center"
      [("dataset", .text dataset.id), ("error", .text halt.cause.message)]
    rollBack halt.allocated storage
    Run.ofExcept (.error halt.cause)

/-- **A halted build is undone** and fails as it halted. -/
theorem conclude_error (dataset : Dataset) (storage : SharedStorage) (halt : Halt)
    (session : Session) :
    ∃ final, conclude dataset storage (.error halt) session = (.error halt.cause, final) ∧
      final.backend = session.backend.performAll (releaseCalls halt.allocated) := by
  obtain ⟨warned, hwarning, hbackend⟩ := Run.exists_report .warn "rolling back partial Data Center"
    [("dataset", .text dataset.id), ("error", .text halt.cause.message)] session
  obtain ⟨final, hroll, hfinal⟩ := rollBack_passesOver halt.allocated storage warned
  refine ⟨final, ?_, hbackend ▸ hfinal⟩
  exact (Run.bind_of_ok hwarning).trans (Run.bind_of_ok hroll)

/-- The run once the storage is provisioned. -/
def buildOn (dataset : Dataset) (nodes : UInt64) (config : StorageConfig) (storage : SharedStorage) :
    Run Cluster := do
  Run.report .info "shared home is set up"
    [("dataset", .text dataset.id), ("shared_home", .text storage.sharedHome.ip)]
  Run.reserve nodes NodeAddress.bytes
  conclude dataset storage (← Run.attempt (buildNodes dataset nodes (.ofConfig config) storage))

/-- **The most nodes whose addresses there is room for.** -/
def mostAddresses : UInt64 := 192153584101141162

theorem bytes_addresses_le_iff :
    nodes.toNat * NodeAddress.bytes ≤ maxListBytes ↔ nodes ≤ mostAddresses :=
  Run.bytes_le_iff (by decide) (by decide)

/-- A run that is not refused asks for the storage and builds on it. -/
theorem provisionDataCenter_eq (h : refusal? dataset nodes minFormat = none)
    (config : StorageConfig) (session : Session) :
    ∃ asking : Session, asking.backend = session.backend ∧
      provisionDataCenter dataset nodes config minFormat session =
        (Run.call (Backend.provisionSharedStorage dataset (.ofConfig config)) >>=
          buildOn dataset nodes config) asking := by
  obtain ⟨hformat, hnodes⟩ := refusal?_eq_none_iff.mp h
  have hchecked : (refuse (.ok ()) : Run Unit) session = (.ok (), session) := rfl
  refine ⟨?asking, ?same, ?run⟩
  case run =>
    rw [provisionDataCenter, hformat]
    refine (Run.bind_of_ok hchecked).trans ?_
    rw [if_neg hnodes]
    refine (Run.bind_of_ok rfl).trans ((Run.bind_of_ok rfl).trans ?_)
    rfl
  case same => rfl

/-! ## How a run ends -/

variable {backend : Backend} {bindings : List Binding}

/-- The cluster that a data center makes. -/
def hostedCluster (setup : NodeSetup) (nodes : UInt64) : Cluster where
  kind := .dataCenter
  datasetId := setup.dataset.id
  nodes := (List.range nodes.toNat).map fun i => builtNode setup (.ofNat i)
  sharedStorage := some setup.storage
  address := none

/-- **How a run that is not refused ends**: its result, and the backend that it leaves. -/
inductive Ends (backend : Backend) (dataset : Dataset) (nodes : UInt64) (config : StorageConfig) :
    Ending Failure Cluster → Backend → Prop where
  /-- The storage is not provisioned. -/
  | unprovisioned {error : BackendError}
      (hstorage : backend.perform (storageCall dataset config) = .error error) :
      Ends backend dataset nodes config (.error (.backend error)) backend
  /-- The bindings are not found, and the storage is released. -/
  | unbound {error : MissingObjectStore} {entered : Backend}
      (hroom : nodes ≤ mostAddresses)
      (hentered : backend.carryOut [storageCall dataset config] = .ok entered)
      (hbindings : (Plan.ofConfig config).bindings (storageOf backend dataset config) = .error error) :
      Ends backend dataset nodes config (.error (.formula (.missingObjectStore error)))
        (entered.performAll (releaseCalls []))
  /-- A call fails behind others, and what these did is undone. -/
  | stopped {bindings : List Binding} {done rest : List Call} {call : Call} {error : BackendError}
      {built : Backend} (hroom : nodes ≤ mostNodes)
      (hbindings : (Plan.ofConfig config).bindings (storageOf backend dataset config) = .ok bindings)
      (hcalls : buildCalls backend dataset nodes config bindings = done ++ call :: rest)
      (hdone : backend.carryOut (storageCall dataset config :: done) = .ok built)
      (hcall : built.perform call = .error error) :
      Ends backend dataset nodes config (.error (.backend error))
        (built.performAll (releaseCalls (allocatedIn done)))
  /-- Every call succeeds. -/
  | finished {bindings : List Binding} {after : Backend} (hroom : nodes ≤ mostNodes)
      (hbindings : (Plan.ofConfig config).bindings (storageOf backend dataset config) = .ok bindings)
      (hcalls : backend.carryOut (storageCall dataset config ::
        buildCalls backend dataset nodes config bindings) = .ok after) :
      Ends backend dataset nodes config
        (.ok (hostedCluster (setupOf backend dataset config bindings) nodes)) after
  /-- There is no room for the addresses, or none for the nodes once the bindings are found.  The storage
  is there, and stays. -/
  | overflow {entered : Backend}
      (hentered : backend.carryOut [storageCall dataset config] = .ok entered)
      (hmany : mostAddresses < nodes ∨ mostNodes < nodes ∧ ∃ bindings,
        (Plan.ofConfig config).bindings (storageOf backend dataset config) = .ok bindings) :
      Ends backend dataset nodes config .overflow entered

/-- A run that builds on storage makes room for the addresses first. -/
theorem buildOn_of_room (hroom : nodes ≤ mostAddresses) (storage : SharedStorage)
    (entered : Session) :
    ∃ building : Session, building.backend = entered.backend ∧
      buildOn dataset nodes config storage entered =
        (Run.attempt (buildNodes dataset nodes (.ofConfig config) storage) >>=
          conclude dataset storage) building := by
  obtain ⟨building, hreport, hsame⟩ := Run.exists_report .info "shared home is set up"
    [("dataset", .text dataset.id), ("shared_home", .text storage.sharedHome.ip)] entered
  exact ⟨building, hsame,
    (Run.bind_of_ok hreport).trans (Run.bind_of_ok (Run.reserve_of_le bytes_addresses_le_iff hroom))⟩

/-- …and breaks off if there is none. -/
theorem buildOn_of_overflow (hmany : mostAddresses < nodes) (storage : SharedStorage)
    (entered : Session) :
    ∃ building : Session, building.backend = entered.backend ∧
      buildOn dataset nodes config storage entered = (.overflow, building) := by
  obtain ⟨building, hreport, hsame⟩ := Run.exists_report .info "shared home is set up"
    [("dataset", .text dataset.id), ("shared_home", .text storage.sharedHome.ip)] entered
  exact ⟨building, hsame,
    (Run.bind_of_ok hreport).trans (Run.bind_of_overflow (Run.reserve_of_lt bytes_addresses_le_iff hmany))⟩

/-- A build on provisioned storage ends. -/
theorem buildOn_ends {entered : Session}
    (hentered : backend.carryOut [storageCall dataset config] = .ok entered.backend) :
    Ends backend dataset nodes config
      (buildOn dataset nodes config (storageOf backend dataset config) entered).1
      (buildOn dataset nodes config (storageOf backend dataset config) entered).2.backend := by
  have hcarried : ∀ calls, backend.carryOut (storageCall dataset config :: calls) =
      entered.backend.carryOut calls := fun calls => Backend.carryOut_append hentered
  let storage := storageOf backend dataset config
  by_cases hroom : nodes ≤ mostAddresses
  case neg =>
    have hmany := UInt64.not_le.mp hroom
    obtain ⟨building, hsame, hrun⟩ : ∃ building : Session, building.backend = entered.backend ∧
        buildOn dataset nodes config storage entered = (.overflow, building) :=
      buildOn_of_overflow hmany storage entered
    rw [hrun, hsame]
    exact .overflow hentered (.inl hmany)
  obtain ⟨building, hsame, hrun⟩ := buildOn_of_room hroom storage entered
  rw [hrun]
  cases hbindings : (Plan.ofConfig config).bindings storage with
  | error error =>
    let halt : Halt := ⟨.formula (.missingObjectStore error), []⟩
    obtain ⟨final, hfinal, hafter⟩ := conclude_error dataset storage halt building
    rw [Run.bind_of_ok (Run.attempt_of_error (buildNodes_of_missing hbindings building)), hfinal,
      hafter, hsame]
    exact .unbound hroom hentered hbindings
  | ok bindings =>
    by_cases hnodes : nodes ≤ mostNodes
    case neg =>
      have hmany := UInt64.not_le.mp hnodes
      rw [Run.bind_of_overflow (Run.attempt_of_overflow
        (buildNodes_of_overflow hbindings hmany building)), hsame]
      exact .overflow hentered (.inr ⟨hmany, bindings, hbindings⟩)
    rcases buildNodes_carriesOut hbindings hnodes building with
      ⟨built, hbuild, hcalls⟩ | ⟨done, call, rest, error, built, hcalls, hdone, hcall, hbuild⟩
    · rw [Run.bind_of_ok (Run.attempt_of_ok hbuild)]
      exact .finished hnodes hbindings ((hcarried _).trans (hsame ▸ hcalls))
    · obtain ⟨final, hfinal, hafter⟩ := conclude_error dataset storage (haltBehind done error) built
      rw [Run.bind_of_ok (Run.attempt_of_error hbuild), hfinal, hafter]
      exact .stopped hnodes hbindings hcalls ((hcarried _).trans (hsame ▸ hdone)) hcall

/-- **A run that is not refused ends** in one of these ways. -/
theorem provisionDataCenter_ends (h : refusal? dataset nodes minFormat = none)
    (config : StorageConfig) (session : Session) :
    Ends session.backend dataset nodes config
      (provisionDataCenter dataset nodes config minFormat session).1
      (provisionDataCenter dataset nodes config minFormat session).2.backend := by
  obtain ⟨asking, hsame, hrun⟩ := provisionDataCenter_eq h config session
  have hstorage : CarriesOut
      (Run.call (Backend.provisionSharedStorage dataset (.ofConfig config))) asking
      [storageCall dataset config] (storageOf asking.backend dataset config)
      fun _ error => .backend error :=
    .call rfl fun _ hanswer => (Answer.storage.inj hanswer).symm
  rw [hrun, ← hsame]
  rcases hstorage.single_cases with
    ⟨entered, hcall, hentered⟩ | ⟨error, stopped, hfailed, hstopped, hcall⟩
  · rw [Run.bind_of_ok hcall]
    exact buildOn_ends hentered
  · rw [Run.bind_of_error hfailed, hstopped]
    exact .unprovisioned hcall

/-- **Nothing stands in the way of the calls** of a data center that has its bindings. -/
theorem unobstructed_calls
    (h : (Plan.ofConfig config).bindings (storageOf backend dataset config) = .ok bindings)
    (nodes : UInt64) :
    backend.Unobstructed
      (storageCall dataset config :: buildCalls backend dataset nodes config bindings) := by
  have hprovided : (setupOf backend dataset config bindings).IsProvided :=
    fun binding hmem hplacement => Plan.isSome_objectStore_of_bindings h hmem hplacement
  exact ⟨rfl, unobstructed_nodesCalls hprovided rfl 0 nodes.toNat⟩

end Formula

end DatasetHosting
