import DatasetHosting.Cluster.Backend

/-!
# Cluster/Call — calls of a backend as values

A call names an operation with its arguments. `Backend.perform` carries one out, and `Backend.performAll`
a sequence of them, in which a call that fails is passed over.
-/

namespace DatasetHosting

/-- A call of a backend. -/
inductive Call where
  | provisionSharedStorage (dataset : Dataset) (plan : Plan)
  | provisionNode (spec : NodeSpec)
  | mountSharedHome (node : NodeAddress) (home : SharedHome)
  | bindResource (node : NodeAddress) (binding : Binding)
  | writeNodeFile (node : NodeAddress) (file : NodeFile)
  | nodeStatus (node : NodeAddress)
  | releaseNode (node : NodeAddress)
  | releaseSharedStorage
  deriving DecidableEq, Repr, Inhabited

/-- What a backend answers to a call that it carried out. -/
inductive Answer where
  | storage (storage : SharedStorage)
  | node (address : NodeAddress)
  | status (document : String)
  | done
  deriving DecidableEq, Repr, Inhabited

/-- The operation that the call names. -/
def Call.operation : Call → Operation
  | provisionSharedStorage .. => .provisionSharedStorage
  | provisionNode _ => .provisionNode
  | mountSharedHome .. => .mountSharedHome
  | bindResource .. => .bindResource
  | writeNodeFile .. => .writeNodeFile
  | nodeStatus _ => .nodeStatus
  | releaseNode _ => .releaseNode
  | releaseSharedStorage => .releaseSharedStorage

namespace Backend

/-- An answer of an operation as an answer to its call. -/
def answering {α : Type} (answer : α → Answer) (result : Except BackendError (α × Backend)) :
    Except BackendError (Answer × Backend) :=
  result.map fun (value, backend) => (answer value, backend)

/-- **Carries out a call.** -/
def perform (backend : Backend) : Call → Except BackendError (Answer × Backend)
  | .provisionSharedStorage dataset plan =>
    answering .storage (provisionSharedStorage dataset plan backend)
  | .provisionNode spec => answering .node (provisionNode spec backend)
  | .mountSharedHome node home => answering (fun _ => .done) (mountSharedHome node home backend)
  | .bindResource node binding => answering (fun _ => .done) (bindResource node binding backend)
  | .writeNodeFile node file => answering (fun _ => .done) (writeNodeFile node file backend)
  | .nodeStatus node => answering .status (nodeStatus node backend)
  | .releaseNode node => answering (fun _ => .done) (releaseNode node backend)
  | .releaseSharedStorage => answering (fun _ => .done) (releaseSharedStorage backend)

/-- The backend after a call, the same if the call fails. -/
def after (backend : Backend) (call : Call) : Backend :=
  match backend.perform call with
  | .ok (_, next) => next
  | .error _ => backend

/-- The backend after a sequence of calls. -/
def performAll (backend : Backend) (calls : List Call) : Backend :=
  calls.foldl after backend

end Backend

end DatasetHosting
