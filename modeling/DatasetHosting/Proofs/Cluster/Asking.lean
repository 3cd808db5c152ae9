import Mathlib.Data.List.Forall2
import DatasetHosting.Cluster.Health
import DatasetHosting.Proofs.Cluster.Run

/-!
# Proofs/Cluster/Asking — what a cluster says of itself

A node tells nothing while its status document is blank, tells the health in its document, or offends: the
scenario makes the question fail, or the document is no status (`Scenario.tells_or_offends`).  Asking goes
from node to node up to the first offender (`Cluster.healthOf_asked`), and whether the cluster runs is read
off what its nodes tell.  So an offender counts even behind a node that does not run.
-/

namespace DatasetHosting

variable {scenario : Scenario} {session : Session} {node : ProvisionedNode} {address : NodeAddress}
  {nodes rest : List ProvisionedNode} {cause : Failure} {health other : Option Health}

/-! ## One node -/

/-- A text with a character that is not white space is not blank. -/
theorem Text.not_forall_isBlank {text : String} (h : ∃ c ∈ text.toList, isBlank c = false) :
    ¬ ∀ c ∈ text.toList, isBlank c = true := by
  obtain ⟨c, hc, hvisible⟩ := h
  exact fun hall => Bool.false_ne_true (hvisible.symm.trans (hall c hc))

namespace Scenario

/-- The status document of a node. -/
def document (scenario : Scenario) (address : NodeAddress) : String :=
  (scenario.statuses.get? address.name).getD runningStatus

/-- **What a node tells** if it is asked. -/
inductive Tells (scenario : Scenario) (address : NodeAddress) : Option Health → Prop where
  /-- Nothing, while its document is only white space. -/
  | nothing (hanswers : scenario.fails .nodeStatus address.name = false)
      (hblank : ∀ c ∈ (scenario.document address).toList, Text.isBlank c = true) :
      Tells scenario address none
  /-- The health in its document. -/
  | health {health : Health} (hanswers : scenario.fails .nodeStatus address.name = false)
      (hvisible : ∃ c ∈ (scenario.document address).toList, Text.isBlank c = false)
      (hread : Health.ofStatus? (scenario.document address) = some health) :
      Tells scenario address (some health)

/-- **How a node offends**: the failure, and the node if it was asked all the same. -/
inductive Offends (scenario : Scenario) (node : ProvisionedNode) :
    Failure → List ProvisionedNode → Prop where
  /-- It cannot be asked. -/
  | unanswered (hfails : scenario.fails .nodeStatus node.address.name = true) :
      Offends scenario node (.backend (.injected .nodeStatus node.address.name)) []
  /-- It answers with a document that is no status. -/
  | unreadable (hanswers : scenario.fails .nodeStatus node.address.name = false)
      (hvisible : ∃ c ∈ (scenario.document node.address).toList, Text.isBlank c = false)
      (hread : Health.ofStatus? (scenario.document node.address) = none) :
      Offends scenario node .unreadableStatus [node]

/-- Whether asking a node succeeds, with a document that is blank or a status. -/
def Answers (scenario : Scenario) (address : NodeAddress) : Prop :=
  scenario.fails .nodeStatus address.name = false ∧
    ((∀ c ∈ (scenario.document address).toList, Text.isBlank c = true) ∨
      (Health.ofStatus? (scenario.document address)).isSome = true)

/-- **A node answers exactly if it tells something**, be it nothing yet. -/
theorem answers_iff : scenario.Answers address ↔ ∃ health, scenario.Tells address health := by
  constructor
  · rintro ⟨hanswers, hdocument⟩
    by_cases hblank : ∀ c ∈ (scenario.document address).toList, Text.isBlank c = true
    · exact ⟨none, .nothing hanswers hblank⟩
    · obtain ⟨health, hread⟩ := Option.isSome_iff_exists.mp (hdocument.resolve_left hblank)
      exact ⟨some health, .health hanswers (by simpa using hblank) hread⟩
  · rintro ⟨health, htells⟩
    cases htells with
    | nothing hanswers hblank => exact ⟨hanswers, .inl hblank⟩
    | health hanswers _ hread => exact ⟨hanswers, .inr (Option.isSome_iff_exists.mpr ⟨_, hread⟩)⟩

/-- A node tells one thing only. -/
theorem Tells.unique (h : scenario.Tells address health) (hother : scenario.Tells address other) :
    health = other := by
  cases h with
  | nothing _ hblank =>
    cases hother with
    | nothing => rfl
    | health _ hvisible => exact absurd hblank (Text.not_forall_isBlank hvisible)
  | health _ hvisible hread =>
    cases hother with
    | nothing _ hblank => exact absurd hblank (Text.not_forall_isBlank hvisible)
    | health _ _ hread' => rw [← hread, ← hread']

/-- **A node tells something or offends.** -/
theorem tells_or_offends (scenario : Scenario) (node : ProvisionedNode) :
    (∃ health, scenario.Tells node.address health) ∨
      ∃ cause asked, scenario.Offends node cause asked := by
  cases hfails : scenario.fails .nodeStatus node.address.name with
  | true => exact .inr ⟨_, _, .unanswered hfails⟩
  | false =>
    by_cases hblank : ∀ c ∈ (scenario.document node.address).toList, Text.isBlank c = true
    · exact .inl ⟨none, .nothing hfails hblank⟩
    · have hvisible : ∃ c ∈ (scenario.document node.address).toList, Text.isBlank c = false := by
        simpa using hblank
      cases hread : Health.ofStatus? (scenario.document node.address) with
      | none => exact .inr ⟨_, _, .unreadable hfails hvisible hread⟩
      | some health => exact .inl ⟨some health, .health hfails hvisible hread⟩

/-- …and never both. -/
theorem Offends.not_tells {asked : List ProvisionedNode} (h : scenario.Offends node cause asked) :
    ¬ scenario.Tells node.address health := by
  intro htells
  obtain ⟨hanswers, hdocument⟩ := answers_iff.mpr ⟨health, htells⟩
  cases h with
  | unanswered hfails => cases hfails.symm.trans hanswers
  | unreadable _ hvisible hread =>
    rcases hdocument with hblank | hsome
    · exact Text.not_forall_isBlank hvisible hblank
    · rw [hread] at hsome
      cases hsome

end Scenario

/-! ## Asking one node -/

namespace Health

theorem parseStatus_of_blank {text : String} (h : ∀ c ∈ text.toList, Text.isBlank c = true) :
    parseStatus text = .ok none :=
  if_pos (List.all_eq_true.mpr h)

theorem parseStatus_of_visible {text : String} (h : ∃ c ∈ text.toList, Text.isBlank c = false) :
    parseStatus text =
      match ofStatus? text with
      | some health => .ok (some health)
      | none => .error .unreadableStatus :=
  if_neg fun hblank => Text.not_forall_isBlank h (List.all_eq_true.mp hblank)

end Health

/-- The session behind questions to nodes: all that changes is the log of the backend. -/
def Session.asking (session : Session) (nodes : List ProvisionedNode) : Session :=
  let queried := nodes.map (.statusQueried ·.address.name)
  { session with backend := { session.backend with events := session.backend.events ++ queried } }

theorem Session.asking_nil (session : Session) : session.asking [] = session := by
  rw [asking, List.map_nil, List.append_nil]

theorem Session.asking_append (session : Session) (nodes rest : List ProvisionedNode) :
    session.asking (nodes ++ rest) = (session.asking nodes).asking rest := by
  simp only [asking, List.map_append, List.append_assoc]

namespace Run

theorem call_nodeStatus (h : session.backend.scenario.fails .nodeStatus node.address.name = false) :
    call (Backend.nodeStatus node.address) session =
      (.ok (session.backend.scenario.document node.address), session.asking [node]) := by
  have hpermits : session.backend.scenario.permits (.nodeStatus node.address) = true :=
    Bool.not_eq_true' _ ▸ h
  have hperform := Backend.perform_of_permits hpermits
  obtain ⟨document, hdocument, hrun⟩ := call_of_ok rfl hperform
  rw [hrun, Answer.status.inj hdocument]
  rfl

theorem call_nodeStatus_of_fails
    (h : session.backend.scenario.fails .nodeStatus node.address.name = true) :
    call (Backend.nodeStatus node.address) session =
      (.error (.backend (.injected .nodeStatus node.address.name)), session) := by
  have hpermits : session.backend.scenario.permits (.nodeStatus node.address) = false :=
    Bool.not_eq_false' _ ▸ h
  exact call_of_error rfl (Backend.perform_of_not_permits hpermits)

/-- What a run returns is changed by what follows it. -/
theorem bind_pure_apply {α β : Type} (run : Run α) (change : α → β) (session : Session) :
    (run >>= fun value => pure (change value)) session =
      ((run session).1.map change, (run session).2) := by
  cases hrun : run session with
  | mk result after =>
    cases result with
    | ok value => exact bind_of_ok hrun
    | error cause => exact bind_of_error hrun
    | overflow => exact bind_of_overflow hrun

end Run

/-! ## Asking all nodes -/

namespace Cluster

/-- A node that tells something is passed. -/
theorem healthOf_cons_of_tells (h : session.backend.scenario.Tells node.address health) :
    healthOf (node :: rest) session =
      ((healthOf rest (session.asking [node])).1.map ((node.name, health) :: ·),
        (healthOf rest (session.asking [node])).2) := by
  have hparse : Health.parseStatus (session.backend.scenario.document node.address) = .ok health := by
    cases h with
    | nothing _ hblank => exact Health.parseStatus_of_blank hblank
    | health _ hvisible hread => rw [Health.parseStatus_of_visible hvisible, hread]
  have hanswers := (Scenario.answers_iff.mpr ⟨health, h⟩).1
  rw [healthOf, Run.bind_of_ok (Run.call_nodeStatus hanswers), hparse]
  exact Run.bind_pure_apply (healthOf rest) _ _

/-- …and one that offends ends the questions. -/
theorem healthOf_cons_of_offends {asked : List ProvisionedNode}
    (h : session.backend.scenario.Offends node cause asked) :
    healthOf (node :: rest) session = (.error cause, session.asking asked) := by
  rw [healthOf]
  cases h with
  | unanswered hfails =>
    rw [Run.bind_of_error (Run.call_nodeStatus_of_fails hfails), Session.asking_nil]
  | unreadable hanswers hvisible hread =>
    rw [Run.bind_of_ok (Run.call_nodeStatus hanswers), Health.parseStatus_of_visible hvisible, hread]
    rfl

/-- A line of a health report is about its node: its name, and what it tells. -/
def Reports (scenario : Scenario) (node : ProvisionedNode) (line : String × Option Health) : Prop :=
  line.1 = node.name ∧ scenario.Tells node.address line.2

/-- **How asking nodes ends**: with what, and with which of them asked. -/
inductive Asked (scenario : Scenario) (nodes : List ProvisionedNode) :
    Ending Failure (List (String × Option Health)) → List ProvisionedNode → Prop where
  /-- All tell something. -/
  | told {report : List (String × Option Health)}
      (hreport : List.Forall₂ (Reports scenario) nodes report) : Asked scenario nodes (.ok report) nodes
  /-- One offends behind nodes that tell something. -/
  | stopped {done rest asked : List ProvisionedNode} {node : ProvisionedNode} {cause : Failure}
      (hsplit : nodes = done ++ node :: rest) (hdone : ∀ earlier ∈ done, scenario.Answers earlier.address)
      (hnode : scenario.Offends node cause asked) : Asked scenario nodes (.error cause) (done ++ asked)

/-- A node that tells something, in front of the others. -/
theorem Asked.cons {result : Ending Failure (List (String × Option Health))}
    {asked : List ProvisionedNode} (hnode : scenario.Tells node.address health)
    (h : Asked scenario nodes result asked) :
    Asked scenario (node :: nodes) (result.map ((node.name, health) :: ·)) (node :: asked) := by
  cases h with
  | told hreport => exact .told (.cons ⟨rfl, hnode⟩ hreport)
  | stopped hsplit hdone hoffends =>
    have hanswers := Scenario.answers_iff.mpr ⟨health, hnode⟩
    have hearlier : ∀ earlier ∈ node :: _, scenario.Answers earlier.address :=
      List.forall_mem_cons.mpr ⟨hanswers, hdone⟩
    exact .stopped (congrArg (node :: ·) hsplit) hearlier hoffends

/-- **Nodes are asked in order, up to the first that offends.** -/
theorem healthOf_asked (nodes : List ProvisionedNode) (session : Session) :
    ∃ asked, Asked session.backend.scenario nodes (healthOf nodes session).1 asked ∧
      (healthOf nodes session).2 = session.asking asked := by
  induction nodes generalizing session with
  | nil => exact ⟨[], .told .nil, session.asking_nil.symm⟩
  | cons node rest ih =>
    rcases session.backend.scenario.tells_or_offends node with ⟨health, htells⟩ | ⟨cause, asked, hoffends⟩
    · -- A question only adds to the log, so the others tell what they would have told before it.
      obtain ⟨asked, hasked, hafter⟩ := ih (session.asking [node])
      rw [healthOf_cons_of_tells htells]
      exact ⟨node :: asked, .cons htells hasked, hafter.trans (session.asking_append [node] asked).symm⟩
    · rw [healthOf_cons_of_offends hoffends]
      exact ⟨asked, .stopped rfl (fun _ hnone => absurd hnone List.not_mem_nil) hoffends, rfl⟩

/-! ## The cluster -/

variable {report : List (String × Option Health)}

/-- Nodes that are reported on answer. -/
theorem answers_of_report (h : List.Forall₂ (Reports scenario) nodes report) :
    ∀ node ∈ nodes, scenario.Answers node.address := by
  induction h with
  | nil => exact fun _ hnone => absurd hnone List.not_mem_nil
  | cons hline _ ih =>
    exact List.forall_mem_cons.mpr ⟨Scenario.answers_iff.mpr ⟨_, hline.2⟩, ih⟩

/-- All lines of a report tell the same exactly if all nodes do. -/
theorem forall_report_iff (h : List.Forall₂ (Reports scenario) nodes report) :
    (∀ line ∈ report, line.2 = health) ↔
      ∀ node ∈ nodes, scenario.Tells node.address health := by
  induction h with
  | nil => simp
  | cons hline _ ih =>
    rw [List.forall_mem_cons, List.forall_mem_cons, ih]
    exact and_congr_left fun _ => ⟨fun hsame => hsame ▸ hline.2, hline.2.unique⟩

/-- **There is a report exactly if all nodes answer.** -/
theorem exists_healthOf_iff (nodes : List ProvisionedNode) (session : Session) :
    (∃ report, (healthOf nodes session).1 = .ok report) ↔
      ∀ node ∈ nodes, session.backend.scenario.Answers node.address := by
  obtain ⟨asked, hasked, -⟩ := healthOf_asked nodes session
  generalize (healthOf nodes session).1 = result at hasked
  cases hasked with
  | told hreport => exact ⟨fun _ => answers_of_report hreport, fun _ => ⟨_, rfl⟩⟩
  | stopped hsplit _ hoffends =>
    refine ⟨fun ⟨_, hok⟩ => (nomatch hok), fun hall => ?_⟩
    obtain ⟨health, htells⟩ :=
      Scenario.answers_iff.mp (hall _ (hsplit ▸ List.mem_append_right _ List.mem_cons_self))
    exact absurd htells hoffends.not_tells

theorem isRunning_of_nil {cluster : Cluster} (h : cluster.nodes = []) (session : Session) :
    cluster.isRunning session = (.ok (cluster.kind == .external), session) := by
  rw [isRunning, h]
  rfl

/-- A cluster with nodes is asked for its health. -/
theorem isRunning_of_ne_nil {cluster : Cluster} (h : cluster.nodes ≠ []) (session : Session) :
    cluster.isRunning session =
      ((cluster.health session).1.map fun report => report.all (·.2 == some .running),
        (cluster.health session).2) := by
  rw [isRunning, if_neg (by simpa using h)]
  exact Run.bind_pure_apply cluster.health _ session

theorem isRunning_eq_ok_iff {cluster : Cluster} {running : Bool} (h : cluster.nodes ≠ []) :
    (cluster.isRunning session).1 = .ok running ↔
      (∃ report, (cluster.health session).1 = .ok report) ∧
        (running = true ↔
          ∀ node ∈ cluster.nodes, session.backend.scenario.Tells node.address (some .running)) := by
  rw [isRunning_of_ne_nil h]
  obtain ⟨asked, hasked, -⟩ := healthOf_asked cluster.nodes session
  change Asked _ _ (cluster.health session).1 _ at hasked
  generalize (cluster.health session).1 = result at hasked
  cases hasked with
  | stopped => simp [Ending.map]
  | @told report hreport =>
    have hall : report.all (·.2 == some .running) = true ↔
        ∀ line ∈ report, line.2 = some .running := by simp
    rw [← forall_report_iff hreport, ← hall]
    constructor
    · intro hok
      obtain rfl := Ending.ok.inj hok
      exact ⟨⟨_, rfl⟩, Iff.rfl⟩
    · rintro ⟨-, hsame⟩
      exact congrArg Ending.ok (Bool.eq_iff_iff.mpr hsame.symm)

theorem isRunning_eq_error_iff {cluster : Cluster} :
    (cluster.isRunning session).1 = .error cause ↔
      cluster.nodes ≠ [] ∧ (cluster.health session).1 = .error cause := by
  by_cases h : cluster.nodes = []
  · simp [isRunning_of_nil h, h]
  · rw [isRunning_of_ne_nil h]
    cases (cluster.health session).1 <;> simp [Ending.map, h]

/-- **Health and running agree with the status documents.**  There is a health report exactly if every node
answers, and it has a line for each node, in order.  Otherwise the first node that offends tells why, and
none behind it is asked.  A cluster runs if it has nodes and all tell so, or if it is a server elsewhere; it
does not run if there are no nodes and no such server, or if there is a report in which a node tells something
else.  What stops a report stops the answer too, whatever nodes in front of the offender tell. -/
theorem health_agrees_with_documents (cluster : Cluster) (session : Session) :
    ((∃ report, (cluster.health session).1 = .ok report) ↔
      ∀ node ∈ cluster.nodes, session.backend.scenario.Answers node.address) ∧
    (∀ report, (cluster.health session).1 = .ok report →
      List.Forall₂ (fun node line =>
          line.1 = node.name ∧ session.backend.scenario.Tells node.address line.2)
        cluster.nodes report ∧
      (cluster.health session).2 = session.asking cluster.nodes) ∧
    (∀ cause, (cluster.health session).1 = .error cause →
      ∃ done node rest asked, cluster.nodes = done ++ node :: rest ∧
        (∀ earlier ∈ done, session.backend.scenario.Answers earlier.address) ∧
        session.backend.scenario.Offends node cause asked ∧
        (cluster.health session).2 = session.asking (done ++ asked)) ∧
    ((cluster.isRunning session).1 = .ok true ↔
      (cluster.nodes = [] ∧ cluster.kind = .external) ∨
      (cluster.nodes ≠ [] ∧
        ∀ node ∈ cluster.nodes, session.backend.scenario.Tells node.address (some .running))) ∧
    ((cluster.isRunning session).1 = .ok false ↔
      (cluster.nodes = [] ∧ cluster.kind ≠ .external) ∨
      ((∃ report, (cluster.health session).1 = .ok report) ∧
        ∃ node ∈ cluster.nodes,
          ¬ session.backend.scenario.Tells node.address (some .running))) ∧
    (∀ cause, (cluster.isRunning session).1 = .error cause ↔
      cluster.nodes ≠ [] ∧ (cluster.health session).1 = .error cause) := by
  obtain ⟨asked, hasked, hafter⟩ := healthOf_asked cluster.nodes session
  refine ⟨exists_healthOf_iff cluster.nodes session, fun report hok => ?_, fun cause herror => ?_, ?_, ?_,
    fun cause => isRunning_eq_error_iff⟩
  · rw [show (healthOf cluster.nodes session).1 = .ok report from hok] at hasked
    cases hasked with
    | told hreport => exact ⟨hreport, hafter⟩
  · rw [show (healthOf cluster.nodes session).1 = .error cause from herror] at hasked
    cases hasked with
    | stopped hsplit hdone hnode => exact ⟨_, _, _, _, hsplit, hdone, hnode, hafter⟩
  · by_cases h : cluster.nodes = []
    · simp [isRunning_of_nil h, h]
    · simp only [isRunning_eq_ok_iff h, h, true_iff, false_and, false_or, ne_eq, not_false_eq_true,
        true_and, and_iff_right_iff_imp]
      intro hall
      exact (exists_healthOf_iff cluster.nodes session).mpr fun node hnode =>
        Scenario.answers_iff.mpr ⟨_, hall node hnode⟩
  · by_cases h : cluster.nodes = []
    · simp [isRunning_of_nil h, h]
    · simp [isRunning_eq_ok_iff h, h]

/-- The first node is starting and the second answers nonsense: the answer is the second node's offence. -/
example :
    let node (name : String) : ProvisionedNode := ⟨0, name, ⟨name, "10.0.0.10"⟩, []⟩
    let cluster : Cluster := ⟨.dataCenter, "jira", [node "dc-0", node "dc-1"], none, none⟩
    let scenario : Scenario :=
      { statuses := [("dc-0", "\x7b\"state\":\"STARTING\"\x7d"), ("dc-1", "MAINTENANCE")] }
    (cluster.isRunning ⟨{ scenario := scenario }, []⟩).1 = .error .unreadableStatus := by
  decide +kernel

end Cluster

end DatasetHosting
