import DatasetHosting.Proofs.Cluster.DataCenter

/-!
# Proofs/Cluster/Hosting — how each strategy is carried out

A formula may be refused before anything is done (`Formula.objection?`), and then the session is left as it
was (`Formula.provision_of_objection`).  Otherwise one node is hosted by a single call, a server elsewhere by
no call at all, and a data center as `Formula.provisionDataCenter_ends` says.  What the three have in common
is `Formula.Concludes`.
-/

namespace DatasetHosting.Formula

variable {dataset : Dataset} {minFormat : Option UInt32} {session : Session}

/-! ## Refusals -/

/-- **Why a formula is refused** before the backend is asked. -/
def objection? (formula : Formula) : Option FormulaError :=
  match formula.strategy with
  | .standalone minFormat =>
    match formula.dataset.checkFormat minFormat with
    | .error error => some error
    | .ok () => none
  | .dataCenter nodes _ minFormat => refusal? formula.dataset nodes minFormat
  | .external _ => none

theorem provisionStandalone_of_error {error : FormulaError}
    (h : dataset.checkFormat minFormat = .error error) (session : Session) :
    provisionStandalone dataset minFormat session = (.error (.formula error), session) := by
  rw [provisionStandalone, h]
  rfl

/-- **A refused formula leaves everything as it was.** -/
theorem provision_of_objection {formula : Formula} {error : FormulaError}
    (h : formula.objection? = some error) (session : Session) :
    formula.provision session = (.error (.formula error), session) := by
  obtain ⟨dataset, strategy⟩ := formula
  cases strategy with
  | standalone minFormat =>
    cases hcheck : dataset.checkFormat minFormat with
    | error cause =>
      simp only [objection?, hcheck] at h
      obtain rfl := Option.some.inj h
      exact provisionStandalone_of_error hcheck session
    | ok =>
      simp only [objection?, hcheck] at h
      cases h
  | dataCenter nodes config minFormat => exact provisionDataCenter_of_refusal h config session
  | external address => cases h

/-! ## One node, and none -/

/-- The call for the only node of a dataset. -/
def standaloneCall : Call :=
  .provisionNode ⟨0, "standalone"⟩

/-- The cluster of a dataset on one node. -/
def standaloneCluster (dataset : Dataset) : Cluster where
  kind := .standalone
  datasetId := dataset.id
  nodes := [⟨0, "standalone", ⟨"standalone", Backend.nodeIp 0⟩,
    nodeLocalBindings dataset.jiraHome.unpackedPath⟩]
  sharedStorage := none
  address := none

/-- The cluster of a dataset on a server elsewhere. -/
def externalCluster (dataset : Dataset) (address : String) : Cluster where
  kind := .external
  datasetId := dataset.id
  nodes := []
  sharedStorage := none
  address := some address

/-- **One node is hosted by one call.** -/
theorem provisionStandalone_carriesOut (h : dataset.checkFormat minFormat = .ok ())
    (session : Session) :
    CarriesOut (provisionStandalone dataset minFormat) session [standaloneCall]
      (standaloneCluster dataset) fun _ error => .backend error := by
  have hchecked : CarriesOut (refuse (dataset.checkFormat minFormat)) session [] ()
      fun _ error => .backend error := by
    rw [h]
    exact .pure
  refine hchecked.bind fun session₁ _ => .bind (.report _ _ _) fun session₂ _ => ?_
  have hnode : CarriesOut (Run.call (Backend.provisionNode ⟨0, "standalone"⟩)) session₂
      [standaloneCall] ⟨"standalone", Backend.nodeIp 0⟩ fun _ error => .backend error :=
    .call rfl fun _ hanswer => (Answer.node.inj hanswer).symm
  exact hnode.bind fun session₃ _ => .bind (.report _ _ _) fun _ _ => .pure

/-! ## All three -/

/-- **How a formula that is not refused ends**: its result, and the backend that it leaves. -/
inductive Concludes (backend : Backend) (dataset : Dataset) :
    Strategy → Ending Failure Cluster → Backend → Prop where
  /-- The only node is not provisioned. -/
  | unhoused {minFormat : Option UInt32} {error : BackendError}
      (hcall : backend.perform standaloneCall = .error error) :
      Concludes backend dataset (.standalone minFormat) (.error (.backend error)) backend
  /-- The only node is provisioned. -/
  | standalone {minFormat : Option UInt32} {after : Backend}
      (hcall : backend.carryOut [standaloneCall] = .ok after) :
      Concludes backend dataset (.standalone minFormat) (.ok (standaloneCluster dataset)) after
  /-- A data center ends as it does. -/
  | dataCenter {nodes : UInt64} {config : StorageConfig} {minFormat : Option UInt32}
      {result : Ending Failure Cluster} {after : Backend}
      (hends : Ends backend dataset nodes config result after) :
      Concludes backend dataset (.dataCenter nodes config minFormat) result after
  /-- The server elsewhere is taken, and the backend is not asked. -/
  | external {address : String} :
      Concludes backend dataset (.external address) (.ok (externalCluster dataset address)) backend

theorem provisionStandalone_concludes (h : dataset.checkFormat minFormat = .ok ())
    (session : Session) :
    Concludes session.backend dataset (.standalone minFormat)
      (provisionStandalone dataset minFormat session).1
      (provisionStandalone dataset minFormat session).2.backend := by
  rcases (provisionStandalone_carriesOut h session).single_cases with
    ⟨after, hrun, hcalls⟩ | ⟨error, stopped, hrun, hstopped, hcall⟩
  · rw [hrun]
    exact .standalone hcalls
  · rw [hrun, hstopped]
    exact .unhoused hcall

/-- **A formula that is not refused ends** in one of these ways. -/
theorem provision_concludes {formula : Formula} (h : formula.objection? = none) (session : Session) :
    Concludes session.backend formula.dataset formula.strategy (formula.provision session).1
      (formula.provision session).2.backend := by
  obtain ⟨dataset, strategy⟩ := formula
  cases strategy with
  | standalone minFormat =>
    cases hcheck : dataset.checkFormat minFormat with
    | error cause =>
      simp only [objection?, hcheck] at h
      cases h
    | ok => exact provisionStandalone_concludes hcheck session
  | dataCenter nodes config minFormat => exact .dataCenter (provisionDataCenter_ends h config session)
  | external address => exact .external

end DatasetHosting.Formula
