import DatasetHosting.Cluster.Health
import DatasetHosting.Dataset.WellKnown
import DatasetHosting.Host.Resolution
import DatasetHosting.Proofs.Cluster.Holding
import DatasetHosting.Proofs.Cluster.HostedDataCenter
import DatasetHosting.Proofs.Cluster.Hosting

/-!
# Proofs/Cluster/Lifecycle — what is left behind

A lifecycle hosts a dataset, asks the cluster some questions, and releases it; it ends early where hosting
fails or breaks off.  Hosting leaves a free backend if it fails, and else a cluster that owns whatever the
backend holds (`Cluster.Owns`); questions change neither, and releasing an owner frees the backend.  Only a
run that breaks off leaves its storage to nobody.  So a backend that is free stays free over any number of
lifecycles, as long as no release fails, exactly if none of them asks for more nodes than there is room for
(`Formula.Overflows`).
-/

namespace DatasetHosting

variable {α β : Type} {backend : Backend} {session : Session} {cluster : Cluster}

/-! ## Lifecycles -/

/-- A question to a cluster. -/
inductive Question where
  | health
  | isRunning
  deriving DecidableEq, Repr

/-- The session behind a question, whatever the answer. -/
def Question.ask (cluster : Cluster) (session : Session) : Question → Session
  | health => (cluster.health session).2
  | isRunning => (cluster.isRunning session).2

/-- **One lifecycle**: a dataset that a catalogue hosts, and what its cluster is asked. -/
structure Lifecycle where
  catalogue : Catalogue
  dataset : Dataset
  questions : List Question

namespace Lifecycle

/-- The session behind what follows hosting.  A cluster is asked and released; without one nothing is
done. -/
def close (questions : List Question) : Ending Failure Cluster × Session → Session
  | (.ok cluster, hosted) => (cluster.release (questions.foldl (Question.ask cluster) hosted)).2
  | (.error _, failed) => failed
  | (.overflow, broken) => broken

/-- **The session behind a lifecycle.** -/
def run (session : Session) (lifecycle : Lifecycle) : Session :=
  match lifecycle.catalogue.host lifecycle.dataset with
  | .ok formula => close lifecycle.questions (formula.provision session)
  | .error _ => session

/-- **The session behind lifecycles**, one after the other. -/
def runAll (session : Session) (lifecycles : List Lifecycle) : Session :=
  lifecycles.foldl run session

end Lifecycle

/-! ## Owning what is held -/

/-- **The cluster owns whatever the backend holds**: releasing its nodes and its storage is enough, and can
be done. -/
structure Cluster.Owns (cluster : Cluster) (backend : Backend) : Prop where
  /-- No other node is held. -/
  nodes : backend.HoldsOnly ((cluster.nodes.map (·.address)).map (·.name))
  /-- Its nodes are known. -/
  known : backend.Knows (cluster.nodes.map (·.address))
  /-- There is no other storage. -/
  storage : cluster.sharedStorage = none → backend.storage = none

/-- From a free backend on, only what calls have handed out is held. -/
theorem Backend.IsFree.holdsOnly_nextAll (h : backend.IsFree) (calls : List Call) :
    (backend.nextAll calls).HoldsOnly ((allocatedIn calls).map (·.name)) :=
  (isFree_iff.mp h).1.nextAll calls

theorem Backend.knows_allocatedIn (backend : Backend) (calls : List Call) :
    (backend.nextAll calls).Knows (allocatedIn calls) :=
  fun _ haddress => isSome_get?_of_allocated haddress

/-! ## Hosting -/

namespace Formula

variable {dataset : Dataset} {nodes : UInt64} {config : StorageConfig} {bindings : List Binding}

theorem allocatedIn_nodesCalls (setup : NodeSetup) (start count : Nat) :
    allocatedIn (nodesCalls setup start count) =
      (List.range' start count).map fun i => nodeAddress (.ofNat i) := by
  induction count generalizing start with
  | zero => rfl
  | succ count ih =>
    have hconfigure : allocatedIn (configureCalls setup (.ofNat start)) = [] :=
      allocatedIn_of_forall_mem_configureCalls fun _ hcall => hcall
    have hnode : allocatedIn (nodeCalls setup (.ofNat start)) = [nodeAddress (.ofNat start)] :=
      congrArg (nodeAddress (.ofNat start) :: ·) hconfigure
    rw [nodesCalls_succ, allocatedIn_append, hnode, ih, List.range'_succ]
    rfl

/-- A data center has the nodes that its calls hand out. -/
theorem allocatedIn_buildCalls :
    allocatedIn (storageCall dataset config :: buildCalls backend dataset nodes config bindings) =
      (hostedCluster (setupOf backend dataset config bindings) nodes).nodes.map (·.address) := by
  change allocatedIn (buildCalls backend dataset nodes config bindings) = _
  rw [buildCalls, allocatedIn_nodesCalls, hostedCluster, ← List.range_eq_range', List.map_map]
  rfl

/-- **What hosting leaves in the backend**: nothing if it fails, what its cluster owns if there is one, and
storage if it breaks off. -/
def Leaves (scenario : Scenario) (backend : Backend) : Ending Failure Cluster → Prop
  | .ok cluster => cluster.Owns backend ∧ backend.scenario = scenario
  | .error _ => backend.IsFree ∧ backend.scenario = scenario
  | .overflow => backend.storage.isSome = true ∧ backend.scenario = scenario

/-- A data center that fails leaves nothing; one that is hosted owns its nodes and storage. -/
theorem leaves_of_ends {result : Ending Failure Cluster} {after : Backend} (hfree : backend.IsFree)
    (hscenario : backend.scenario.ReleasesAll) (h : Ends backend dataset nodes config result after) :
    Leaves backend.scenario after result := by
  have hundone : ∀ {calls : List Call} {built : Backend}, backend.carryOut calls = .ok built →
      (built.performAll (releaseCalls (allocatedIn calls))).IsFree ∧
        (built.performAll (releaseCalls (allocatedIn calls))).scenario = backend.scenario := by
    intro calls built hcalls
    obtain ⟨-, -, rfl⟩ := Backend.carryOut_eq_ok_iff.mp hcalls
    have hsame : (backend.nextAll calls).scenario = backend.scenario := Backend.nextAll_scenario _ _
    obtain ⟨hdone, hkept⟩ := Backend.isFree_performAll_releaseCalls (hsame ▸ hscenario)
      (backend.knows_allocatedIn calls) (hfree.holdsOnly_nextAll calls)
    exact ⟨hdone, hkept.trans hsame⟩
  cases h with
  | unprovisioned => exact ⟨hfree, rfl⟩
  | unbound _ hentered =>
    have hleft := hundone hentered
    exact hleft
  | stopped _ _ _ hdone =>
    have hleft := hundone hdone
    exact hleft
  | overflow hentered =>
    obtain ⟨-, -, rfl⟩ := Backend.carryOut_eq_ok_iff.mp hentered
    exact ⟨rfl, rfl⟩
  | finished _ _ hcalls =>
    obtain ⟨-, -, rfl⟩ := Backend.carryOut_eq_ok_iff.mp hcalls
    refine ⟨⟨?_, ?_, fun hnone => ?_⟩, Backend.nextAll_scenario _ _⟩
    · exact allocatedIn_buildCalls ▸ hfree.holdsOnly_nextAll _
    · exact allocatedIn_buildCalls ▸ Backend.knows_allocatedIn _ _
    · cases hnone

theorem leaves_of_concludes {strategy : Strategy} {result : Ending Failure Cluster} {after : Backend}
    (hfree : backend.IsFree) (hscenario : backend.scenario.ReleasesAll)
    (h : Concludes backend dataset strategy result after) : Leaves backend.scenario after result := by
  cases h with
  | unhoused => exact ⟨hfree, rfl⟩
  | standalone hcall =>
    obtain ⟨-, -, rfl⟩ := Backend.carryOut_eq_ok_iff.mp hcall
    exact ⟨⟨hfree.holdsOnly_nextAll [standaloneCall], backend.knows_allocatedIn [standaloneCall],
      fun _ => hfree.storage⟩, rfl⟩
  | dataCenter hends => exact leaves_of_ends hfree hscenario hends
  | external =>
    exact ⟨⟨(Backend.isFree_iff.mp hfree).1, fun _ haddress => absurd haddress List.not_mem_nil,
      fun _ => hfree.storage⟩, rfl⟩

/-- **Hosting leaves nothing unowned.** -/
theorem provision_leaves (formula : Formula) (hfree : session.backend.IsFree)
    (hscenario : session.backend.scenario.ReleasesAll) :
    Leaves session.backend.scenario (formula.provision session).2.backend
      (formula.provision session).1 := by
  cases hobjection : formula.objection? with
  | some error =>
    rw [provision_of_objection hobjection]
    exact ⟨hfree, rfl⟩
  | none => exact leaves_of_concludes hfree hscenario (provision_concludes hobjection session)

/-- **The formula asks for more nodes than there is room for**, and comes as far as that: it does not refuse
the dataset, the storage is provisioned, and where the addresses have room there are bindings. -/
def Overflows (formula : Formula) (scenario : Scenario) : Prop :=
  match formula.strategy with
  | .dataCenter nodes config minFormat =>
    (∀ least, minFormat = some least → least ≤ formula.dataset.format) ∧
    scenario.permits (storageCall formula.dataset config) = true ∧
    (mostAddresses < nodes ∨ mostNodes < nodes ∧
      ((Plan.ofConfig config).needsObjectStore = false ∨ scenario.bucket.isSome = true))
  | _ => False

/-- A data center of so many nodes has nodes enough. -/
theorem refusal?_of_overflows {scenario : Scenario} {minFormat : Option UInt32}
    (h : (Formula.mk dataset (.dataCenter nodes config minFormat)).Overflows scenario) :
    refusal? dataset nodes minFormat = none := by
  obtain ⟨hformat, -, hmany⟩ := h
  refine refusal?_eq_none_iff.mpr ⟨checkFormat_eq_ok_iff.mpr hformat, fun hfew => ?_⟩
  have hleast : Strategy.minNodes ≤ mostNodes := by decide
  exact not_overfull_of_le (UInt64.le_of_lt (UInt64.lt_of_lt_of_le hfew hleast)) hmany

theorem overflow_iff_of_concludes {strategy : Strategy} {result : Ending Failure Cluster}
    {after : Backend} (hobjection : (Formula.mk dataset strategy).objection? = none)
    (h : Concludes backend dataset strategy result after) :
    result = .overflow ↔ (Formula.mk dataset strategy).Overflows backend.scenario := by
  cases h with
  | unhoused | standalone | external => exact iff_of_false (by rintro ⟨⟩) not_false
  | dataCenter hends =>
    have hformat := checkFormat_eq_ok_iff.mp (refusal?_eq_none_iff.mp hobjection).1
    exact (ends_overflow_iff hends).trans (and_iff_right hformat).symm

/-- **A formula breaks off** exactly if it asks for more nodes than there is room for. -/
theorem provision_eq_overflow_iff (formula : Formula) (session : Session) :
    (formula.provision session).1 = .overflow ↔ formula.Overflows session.backend.scenario := by
  cases hobjection : formula.objection? with
  | none => exact overflow_iff_of_concludes hobjection (provision_concludes hobjection session)
  | some error =>
    rw [provision_of_objection hobjection]
    refine iff_of_false (by rintro ⟨⟩) fun hoverflows => ?_
    obtain ⟨dataset, strategy⟩ := formula
    cases strategy with
    | standalone | external => exact hoverflows
    | dataCenter nodes config minFormat =>
      cases (refusal?_of_overflows hoverflows).symm.trans hobjection

end Formula

/-! ## Asking -/

/-- **The run asks nodes for their status** and does nothing else to the backend. -/
def OnlyAsks (run : Run α) : Prop :=
  ∀ session, ∃ asked : List NodeAddress,
    (run session).2.backend = session.backend.nextAll (asked.map .nodeStatus)

namespace OnlyAsks

/-- What is known already needs no question. -/
theorem ofExcept (result : Except Failure α) : OnlyAsks (Run.ofExcept result) := by
  intro session
  cases result <;> exact ⟨[], rfl⟩

theorem status (address : NodeAddress) : OnlyAsks (Run.call (Backend.nodeStatus address)) := by
  intro session
  cases hperform : session.backend.perform (.nodeStatus address) with
  | error error =>
    refine ⟨[], ?_⟩
    rw [Run.call_of_error rfl hperform]
    rfl
  | ok result =>
    obtain ⟨-, -, -, hnext⟩ := Backend.perform_eq_ok_iff.mp hperform
    obtain ⟨document, -, hrun⟩ := Run.call_of_ok rfl hperform
    refine ⟨[address], ?_⟩
    rw [hrun]
    exact hnext.symm

theorem bind {run : Run α} {next : α → Run β} (h : OnlyAsks run)
    (hnext : ∀ value, OnlyAsks (next value)) : OnlyAsks (run >>= next) := by
  intro session
  obtain ⟨asked, hasked⟩ := h session
  cases hrun : run session with
  | mk result behind =>
    rw [hrun] at hasked
    cases result with
    | error failure =>
      rw [Run.bind_of_error hrun]
      exact ⟨asked, hasked⟩
    | overflow =>
      rw [Run.bind_of_overflow hrun]
      exact ⟨asked, hasked⟩
    | ok value =>
      obtain ⟨more, hmore⟩ := hnext value behind
      refine ⟨asked ++ more, ?_⟩
      rw [Run.bind_of_ok hrun, hmore, hasked, List.map_append, Backend.nextAll_append]

end OnlyAsks

namespace Cluster

theorem onlyAsks_healthOf (nodes : List ProvisionedNode) : OnlyAsks (healthOf nodes) := by
  induction nodes with
  | nil => exact .ofExcept (.ok [])
  | cons node rest ih =>
    refine .bind (.status node.address) fun response => ?_
    refine .bind (.ofExcept (Health.parseStatus response)) fun health => ?_
    exact .bind ih fun others => .ofExcept (.ok ((node.name, health) :: others))

theorem onlyAsks_isRunning (cluster : Cluster) : OnlyAsks cluster.isRunning := by
  rw [isRunning]
  split
  · exact .ofExcept (.ok (cluster.kind == .external))
  · exact .bind (onlyAsks_healthOf cluster.nodes) fun statuses =>
      .ofExcept (.ok (statuses.all (·.2 == some .running)))

end Cluster

/-- Asking changes what is logged only. -/
theorem Backend.nodes_nextAll_nodeStatus (backend : Backend) (asked : List NodeAddress) :
    (backend.nextAll (asked.map .nodeStatus)).nodes = backend.nodes := by
  induction asked generalizing backend with
  | nil => rfl
  | cons address rest ih => exact ih _

theorem Question.onlyAsks (cluster : Cluster) (session : Session) (question : Question) :
    ∃ asked : List NodeAddress,
      (question.ask cluster session).backend = session.backend.nextAll (asked.map .nodeStatus) := by
  cases question with
  | health => exact Cluster.onlyAsks_healthOf cluster.nodes session
  | isRunning => exact cluster.onlyAsks_isRunning session

/-- **A question changes nothing about who owns what.** -/
theorem Cluster.Owns.ask (h : cluster.Owns session.backend) (question : Question) :
    cluster.Owns (question.ask cluster session).backend ∧
      (question.ask cluster session).backend.scenario = session.backend.scenario := by
  obtain ⟨asked, hasked⟩ := question.onlyAsks cluster session
  have hnodes := session.backend.nodes_nextAll_nodeStatus asked
  have hstorage : (session.backend.nextAll (asked.map .nodeStatus)).storage =
      session.backend.storage := by
    refine Backend.nextAll_storage fun call hcall => ?_
    obtain ⟨address, -, rfl⟩ := List.mem_map.mp hcall
    rfl
  rw [hasked]
  refine ⟨⟨?_, ?_, fun hnone => hstorage.trans (h.storage hnone)⟩, Backend.nextAll_scenario _ _⟩
  · intro name state hstate
    exact h.nodes name state (hnodes ▸ hstate)
  · intro address haddress
    rw [hnodes]
    exact h.known address haddress

/-- …nor do any number of them. -/
theorem Cluster.Owns.askAll (h : cluster.Owns session.backend) (questions : List Question) :
    cluster.Owns (questions.foldl (Question.ask cluster) session).backend ∧
      (questions.foldl (Question.ask cluster) session).backend.scenario =
        session.backend.scenario := by
  induction questions generalizing session with
  | nil => exact ⟨h, rfl⟩
  | cons question rest ih =>
    obtain ⟨howns, hscenario⟩ := h.ask question
    obtain ⟨hend, hsame⟩ := ih howns
    exact ⟨hend, hsame.trans hscenario⟩

/-! ## Releasing -/

namespace Cluster

/-- The calls that release a cluster. -/
def releaseCalls (cluster : Cluster) : List Call :=
  (cluster.nodes.map (·.address)).map .releaseNode ++
    if cluster.sharedStorage.isSome then [.releaseSharedStorage] else []

theorem releaseNodes_carriesOut (nodes : List ProvisionedNode) (session : Session) :
    CarriesOut (releaseNodes nodes) session ((nodes.map (·.address)).map .releaseNode) ()
      fun _ error => .backend error := by
  induction nodes generalizing session with
  | nil => exact .pure
  | cons node rest ih => exact .callThen rfl ih

/-- **Releasing a cluster makes its calls.** -/
theorem release_carriesOut (cluster : Cluster) (session : Session) :
    CarriesOut cluster.release session cluster.releaseCalls () fun _ error => .backend error := by
  refine .bind (releaseNodes_carriesOut cluster.nodes session) fun session₁ _ => ?_
  cases cluster.sharedStorage with
  | none => exact .report _ _ _
  | some storage => exact .callThen rfl fun session₂ => .report _ _ _

theorem mem_releaseCalls {call : Call} (h : call ∈ cluster.releaseCalls) :
    call ∈ DatasetHosting.releaseCalls (cluster.nodes.map (·.address)) := by
  rcases List.mem_append.mp h with hnode | hstorage
  · exact List.mem_append_left _ hnode
  · refine List.mem_append_right _ ?_
    split at hstorage
    · exact hstorage
    · cases hstorage

/-- Once the owner's calls are made, nothing is held. -/
theorem Owns.isFree_nextAll (h : cluster.Owns backend) :
    (backend.nextAll cluster.releaseCalls).IsFree := by
  cases hstorage : cluster.sharedStorage with
  | some storage =>
    have hcalls : cluster.releaseCalls =
        DatasetHosting.releaseCalls (cluster.nodes.map (·.address)) := by
      rw [releaseCalls, hstorage]
      rfl
    rw [hcalls]
    exact Backend.isFree_nextAll_releaseCalls h.nodes
  | none =>
    have hcalls : cluster.releaseCalls = (cluster.nodes.map (·.address)).map .releaseNode := by
      rw [releaseCalls, hstorage]
      exact List.append_nil _
    have hkept := backend.storage_nextAll_releaseNode (cluster.nodes.map (·.address))
    rw [hcalls]
    exact Backend.isFree_iff.mpr ⟨h.nodes.nextAll_releaseNode, hkept.trans (h.storage hstorage)⟩

/-- **The owner's release frees the backend**, where no release fails. -/
theorem Owns.release (h : cluster.Owns session.backend)
    (hscenario : session.backend.scenario.ReleasesAll) :
    (cluster.release session).2.backend.IsFree ∧
      (cluster.release session).2.backend.scenario = session.backend.scenario := by
  have hcarried := Backend.carryOut_of_isRelease hscenario h.known fun _ hcall => mem_releaseCalls hcall
  rcases cluster.release_carriesOut session with
    ⟨after, hrun, hcalls⟩ | ⟨done, call, rest, error, stopped, hcalls, hdone, hcall, hrun⟩
  · rw [hrun, ← Except.ok.inj (hcarried.symm.trans hcalls)]
    exact ⟨h.isFree_nextAll, Backend.nextAll_scenario _ _⟩
  · rw [hcalls, Backend.carryOut_of_error hdone hcall] at hcarried
    cases hcarried

end Cluster

/-! ## Whole lifecycles -/

namespace Lifecycle

/-- **The lifecycle asks for more nodes than there is room for.** -/
def Overflows (lifecycle : Lifecycle) (scenario : Scenario) : Prop :=
  ∃ formula, lifecycle.catalogue.host lifecycle.dataset = .ok formula ∧ formula.Overflows scenario

/-- What hosting has left, asking and releasing clears away, unless hosting breaks off. -/
theorem isFree_close_iff {scenario : Scenario} {hosted : Ending Failure Cluster × Session}
    (hscenario : scenario.ReleasesAll)
    (h : Formula.Leaves scenario hosted.2.backend hosted.1) (questions : List Question) :
    ((close questions hosted).backend.IsFree ↔ hosted.1 ≠ .overflow) ∧
      (close questions hosted).backend.scenario = scenario := by
  obtain ⟨result, hosted⟩ := hosted
  cases result with
  | error failure => exact ⟨iff_of_true h.1 (by rintro ⟨⟩), h.2⟩
  | ok cluster =>
    obtain ⟨howns, rfl⟩ := h
    obtain ⟨hasked, hsame⟩ := howns.askAll questions
    obtain ⟨hend, hkept⟩ := hasked.release (hsame ▸ hscenario)
    exact ⟨iff_of_true hend (by rintro ⟨⟩), hkept.trans hsame⟩
  | overflow =>
    refine ⟨iff_of_false (fun hfree => ?_) (absurd rfl ·), h.2⟩
    have hnone : hosted.backend.storage = none := hfree.storage
    exact Bool.false_ne_true ((congrArg Option.isSome hnone).symm.trans h.1)

/-- **One lifecycle frees what it takes**, whichever way it ends, unless it asks for too many nodes. -/
theorem isFree_run_iff (lifecycle : Lifecycle) (hfree : session.backend.IsFree)
    (hscenario : session.backend.scenario.ReleasesAll) :
    ((lifecycle.run session).backend.IsFree ↔ ¬lifecycle.Overflows session.backend.scenario) ∧
      (lifecycle.run session).backend.scenario = session.backend.scenario := by
  rw [run]
  cases hhost : lifecycle.catalogue.host lifecycle.dataset with
  | error error =>
    refine ⟨iff_of_true hfree ?_, rfl⟩
    rintro ⟨formula, hformula, -⟩
    cases hhost.symm.trans hformula
  | ok formula =>
    have hleaves := formula.provision_leaves hfree hscenario
    obtain ⟨hiff, hsame⟩ := isFree_close_iff hscenario hleaves lifecycle.questions
    have hoverflows : lifecycle.Overflows session.backend.scenario ↔
        (formula.provision session).1 = .overflow := by
      rw [formula.provision_eq_overflow_iff, Overflows, hhost]
      simp
    exact ⟨hiff.trans (not_congr hoverflows.symm), hsame⟩

/-- **…and so do any number of them**, up to the first that asks for too many nodes. -/
theorem isFree_runAll_iff (lifecycles : List Lifecycle) (hfree : session.backend.IsFree)
    (hscenario : session.backend.scenario.ReleasesAll) :
    (∀ n, (runAll session (lifecycles.take n)).backend.IsFree) ↔
      ∀ lifecycle ∈ lifecycles, ¬lifecycle.Overflows session.backend.scenario := by
  induction lifecycles generalizing session with
  | nil => exact iff_of_true (fun n => by rwa [List.take_nil]) (by simp)
  | cons lifecycle rest ih =>
    obtain ⟨hiff, hsame⟩ := lifecycle.isFree_run_iff hfree hscenario
    rw [List.forall_mem_cons, ← hiff]
    constructor
    · intro hall
      have hnext : (lifecycle.run session).backend.IsFree := hall 1
      refine ⟨hnext, hsame ▸ (ih hnext (hsame ▸ hscenario)).mp fun n => hall (n + 1)⟩
    · rintro ⟨hnext, hrest⟩ n
      cases n with
      | zero => exact hfree
      | succ n => exact (ih hnext (hsame ▸ hscenario)).mpr (hsame.symm ▸ hrest) n

/-- **Nothing leaks over whole lifecycles, exactly if there is room for what they ask for.**  On a new backend
whose releases do not fail, every node has been released and there is no storage behind each of any number of
lifecycles, whatever else fails, if and only if none of them hosts a data center of more nodes than there is
room for.  The catalogues need not even be valid. -/
theorem isFree_after_each_iff (scenario : Scenario) (log : List LogEntry)
    (lifecycles : List Lifecycle) (hscenario : scenario.ReleasesAll) :
    (∀ n, (runAll ⟨{ scenario := scenario }, log⟩ (lifecycles.take n)).backend.IsFree) ↔
      ∀ lifecycle ∈ lifecycles, ¬lifecycle.Overflows scenario := by
  refine isFree_runAll_iff lifecycles ⟨fun name state hstate => ?_, rfl⟩ hscenario
  cases hstate

/-- A data center whose second node cannot mount the shared home, and then one node that is asked. -/
theorem isFree_after_failed_mount :
    let scenario : Scenario :=
      { failures := [(.mountSharedHome, some "dc-1")], statuses := [("standalone", "")] }
    let hosting (strategy : Strategy) : Catalogue := ⟨"one-rule", none, [⟨"all", none, strategy⟩]⟩
    let lifecycles : List Lifecycle :=
      [⟨hosting (.dataCenter 2 {} none), .formatEight, []⟩,
        ⟨hosting (.standalone none), .formatEight, [.health, .isRunning]⟩]
    let final := runAll ⟨{ scenario := scenario }, []⟩ lifecycles
    scenario.ReleasesAll ∧ (∀ lifecycle ∈ lifecycles, ¬lifecycle.Overflows scenario) ∧
      final.backend.nodes.names = ["dc-0", "dc-1", "standalone"] ∧ final.backend.IsFree := by
  intro scenario hosting lifecycles final
  have hreleases : scenario.ReleasesAll := by
    intro failure hfailure
    obtain rfl := List.mem_singleton.mp hfailure
    decide
  have hbuild : (hosting (.dataCenter 2 {} none)).host .formatEight =
      .ok ⟨.formatEight, .dataCenter 2 {} none⟩ := rfl
  have hnode : (hosting (.standalone none)).host .formatEight =
      .ok ⟨.formatEight, .standalone none⟩ := rfl
  have hnodes : final.backend.nodes.names = ["dc-0", "dc-1", "standalone"] := by
    simp only [final, lifecycles, runAll, List.foldl_cons, List.foldl_nil, run, hbuild, hnode]
    decide +kernel
  have hroom : ∀ lifecycle ∈ lifecycles, ¬lifecycle.Overflows scenario := by
    refine List.forall_mem_cons.mpr ⟨?_, List.forall_mem_singleton.mpr ?_⟩
    · rintro ⟨formula, hformula, hoverflows⟩
      obtain rfl := Except.ok.inj (hbuild.symm.trans hformula)
      obtain ⟨-, -, hmany⟩ := hoverflows
      exact Formula.not_overfull_of_le (by decide) hmany
    · rintro ⟨formula, hformula, hoverflows⟩
      obtain rfl := Except.ok.inj (hnode.symm.trans hformula)
      exact hoverflows
  have hfree := (isFree_after_each_iff scenario [] lifecycles hreleases).mpr hroom 2
  exact ⟨hreleases, hroom, hnodes, hfree⟩

/-- **A valid catalogue can leave storage behind**: its data center has no room for the addresses of its
nodes, so hosting breaks off, though no call would have failed before the first node. -/
theorem leaks_without_room :
    let catalogue : Catalogue :=
      ⟨"huge", none, [⟨"all", none, .dataCenter 200000000000000000 {} none⟩]⟩
    let scenario : Scenario := { failures := [(.provisionNode, none)] }
    let final := runAll ⟨{ scenario := scenario }, []⟩ [⟨catalogue, .formatEight, []⟩]
    catalogue.validate = .ok () ∧ scenario.ReleasesAll ∧ final.backend.storage.isSome = true ∧
      ¬final.backend.IsFree := by
  intro catalogue scenario final
  have hreleases : scenario.ReleasesAll := by
    intro failure hfailure
    obtain rfl := List.mem_singleton.mp hfailure
    decide
  have hhost : catalogue.host .formatEight =
      .ok ⟨.formatEight, .dataCenter 200000000000000000 {} none⟩ := rfl
  have hstorage : final.backend.storage.isSome = true := by
    simp only [final, runAll, List.foldl_cons, List.foldl_nil, run, hhost]
    decide +kernel
  refine ⟨rfl, hreleases, hstorage, fun hfree => ?_⟩
  rw [hfree.storage] at hstorage
  cases hstorage

end Lifecycle

end DatasetHosting
