import DatasetHosting.Cluster.Provision
import DatasetHosting.Document.Json.Document
import DatasetHosting.Text.Blank

/-!
# Cluster/Health — asking a cluster how it is, and letting it go

A node answers with a status document, or with nothing while it has not come up. A cluster runs if all of
its nodes say so; an external server is taken to run. Releasing a cluster releases its nodes in order and
then its storage, and stops at the first failure.
-/

namespace DatasetHosting

/-- What a node says of itself. -/
inductive Health where
  | starting
  | running
  deriving DecidableEq, Repr, Inhabited

namespace Health

/-- The constant in status documents. -/
def name : Health → String
  | starting => "STARTING"
  | running => "RUNNING"

/-- Every health. -/
def all : List Health := [starting, running]

/-- A health, by its constant. -/
def ofDocument? {m : Type → Type} [Monad m] [MonadLiftT Option m] {α : Type} [Document m α] (a : α) :
    m Health :=
  Document.readConstant all name a

/-- The health's constant. -/
def toJson (health : Health) : Json :=
  .string health.name

/-- The fields of a status document. -/
def statusFields : List String := ["state"]

/-- The health in a status document. -/
def ofStatus? (response : String) : Option Health := do
  let document ← Json.read? response
  let fields ← Document.fields? statusFields document
  fields.required "state" ofDocument?

/-- **The health that a response tells**, none for a blank one. -/
def parseStatus (response : String) : Except Failure (Option Health) :=
  if Text.isBlankText response then .ok none
  else
    match ofStatus? response with
    | some health => .ok (some health)
    | none => .error .unreadableStatus

end Health

namespace Cluster

open Run

/-- The health of some nodes, by name, up to the first that cannot tell. -/
def healthOf : List ProvisionedNode → Run (List (String × Option Health))
  | [] => return []
  | node :: rest => do
    let response ← call (Backend.nodeStatus node.address)
    let health ← ofExcept (Health.parseStatus response)
    let others ← healthOf rest
    return (node.name, health) :: others

/-- **The health of every node**, in order. -/
def health (cluster : Cluster) : Run (List (String × Option Health)) :=
  healthOf cluster.nodes

/-- **Whether the cluster runs.** -/
def isRunning (cluster : Cluster) : Run Bool := do
  if cluster.nodes.isEmpty then return cluster.kind == .external
  let statuses ← cluster.health
  return statuses.all (·.2 == some .running)

/-- Releases nodes in order. -/
def releaseNodes : List ProvisionedNode → Run Unit
  | [] => pure ()
  | node :: rest => do
    call (Backend.releaseNode node.address)
    releaseNodes rest

/-- **Releases a cluster**: its nodes, then its storage. -/
def release (cluster : Cluster) : Run Unit := do
  releaseNodes cluster.nodes
  if cluster.sharedStorage.isSome then call Backend.releaseSharedStorage
  report .info "released cluster"
    [("dataset", .text cluster.datasetId), ("kind", .text cluster.kind.logName)]

end Cluster

end DatasetHosting
