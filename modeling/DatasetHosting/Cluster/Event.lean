import DatasetHosting.Storage.Plan

/-!
# Cluster/Event — what a backend has done

A backend appends one event for each call that succeeds, in order of arrival.
-/

namespace DatasetHosting

/-- One call that a backend carried out. -/
inductive Event where
  | sharedStorageProvisioned (datasetId exportSubnet : String) (objectStore : Bool)
  | nodeProvisioned (node privateIp : String)
  | sharedHomeMounted (node ip : String)
  | resourceBound (node : String) (binding : Binding)
  | fileWritten (node name : String)
  | statusQueried (node : String)
  | nodeReleased (node : String)
  | sharedStorageReleased
  deriving DecidableEq, Repr, Inhabited

namespace Event

/-- The node that the event is about. -/
def node? : Event → Option String
  | sharedStorageProvisioned .. => none
  | nodeProvisioned node _ => some node
  | sharedHomeMounted node _ => some node
  | resourceBound node _ => some node
  | fileWritten node _ => some node
  | statusQueried node => some node
  | nodeReleased node => some node
  | sharedStorageReleased => none

/-- The name of the event's kind. -/
def kind : Event → String
  | sharedStorageProvisioned .. => "shared_storage_provisioned"
  | nodeProvisioned .. => "node_provisioned"
  | sharedHomeMounted .. => "shared_home_mounted"
  | resourceBound .. => "resource_bound"
  | fileWritten .. => "file_written"
  | statusQueried _ => "status_queried"
  | nodeReleased _ => "node_released"
  | sharedStorageReleased => "shared_storage_released"

/-- The resource that the event binds on the given node. -/
def boundOn? (node : String) : Event → Option Resource
  | resourceBound bound binding => if bound = node then some binding.resource else none
  | _ => none

end Event

/-- The events of a backend, oldest first. -/
abbrev EventLog := List Event

namespace EventLog

/-- The resources bound on a node, in order. -/
def boundResources (log : EventLog) (node : String) : List Resource :=
  log.filterMap (Event.boundOn? node)

/-- The place of the first event of a kind, and about the given node if one is given. -/
def position? (log : EventLog) (kind : String) (node : Option String) : Option Nat :=
  log.findIdx? fun event => event.kind == kind && node.all (event.node? == some ·)

end EventLog

end DatasetHosting
