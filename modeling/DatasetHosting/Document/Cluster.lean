import DatasetHosting.Cluster.Health
import DatasetHosting.Document.Host

/-!
# Document/Cluster — clusters and what backends know of them, as documents

Requests for nodes are read and written; clusters, the knowledge about a node, events and log entries are
written only. An event is a list of its kind, its node and one detail, and a log entry a list of its level,
its message and its fields.
-/

namespace DatasetHosting

open Document

namespace NodeSpec

/-- The fields of a request for a node. -/
def fieldNames : List String := ["index", "name"]

/-- A request for a node. -/
def ofDocument? {m : Type → Type} [Monad m] [MonadLiftT Option m] {α : Type} [Document m α] (a : α) :
    m NodeSpec := do
  let fields ← fields? fieldNames a
  return { index := ← fields.required "index" readUInt64, name := ← fields.required "name" text? }

/-- A request for a node as JSON. -/
def toJson (spec : NodeSpec) : Json :=
  .record [("index", .natural spec.index.toNat), ("name", .string spec.name)]

end NodeSpec

/-- A node's address as JSON. -/
def NodeAddress.toJson (address : NodeAddress) : Json :=
  .record [("name", .string address.name), ("private_ip", .string address.privateIp)]

/-- A node of a cluster as JSON. -/
def ProvisionedNode.toJson (node : ProvisionedNode) : Json :=
  .record
    [("index", .natural node.index.toNat), ("name", .string node.name),
     ("address", node.address.toJson), ("bindings", .list (node.bindings.map Binding.toJson))]

/-- A cluster as JSON. -/
def Cluster.toJson (cluster : Cluster) : Json :=
  .record
    [("kind", cluster.kind.toJson), ("dataset_id", .string cluster.datasetId),
     ("nodes", .list (cluster.nodes.map ProvisionedNode.toJson)),
     ("shared_storage", .optional SharedStorage.toJson cluster.sharedStorage),
     ("address", .optional .string cluster.address)]

/-- What is known about a node, as JSON. -/
def NodeState.toJson (state : NodeState) : Json :=
  .record
    [("mounted", .optional SharedHome.toJson state.mounted),
     ("bindings", .list (state.bindings.map Binding.toJson)),
     ("files", .record (state.files.map fun (name, contents) => (name, .string contents))),
     ("released", .boolean state.released)]

namespace Event

/-- What an event tells beside its kind and its node. -/
def detailJson : Event → Json
  | sharedStorageProvisioned datasetId exportSubnet objectStore =>
    .list [.string datasetId, .string exportSubnet, .boolean objectStore]
  | nodeProvisioned _ privateIp => .string privateIp
  | sharedHomeMounted _ ip => .string ip
  | resourceBound _ binding => binding.toJson
  | fileWritten _ name => .string name
  | statusQueried _ => .null
  | nodeReleased _ => .null
  | sharedStorageReleased => .null

/-- An event as JSON. -/
def toJson (event : Event) : Json :=
  .list [.string event.kind, .optional .string event.node?, event.detailJson]

end Event

/-- The value of a log field as JSON. -/
def LogValue.toJson : LogValue → Json
  | text value => .string value
  | number value => .natural value

/-- A log entry as JSON. -/
def LogEntry.toJson (entry : LogEntry) : Json :=
  .list
    [.string entry.level.name, .string entry.message,
     .record (entry.fields.map fun (name, value) => (name, value.toJson))]

end DatasetHosting
