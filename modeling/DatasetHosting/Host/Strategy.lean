import DatasetHosting.Dataset.Basic
import DatasetHosting.Storage.Plan

/-!
# Host/Strategy — the ways to host a dataset

A dataset runs on one node of its own, on a data center of several nodes that share storage, or on a
server that somebody else keeps. A strategy with its dataset is a formula, which provisioning carries
out.
-/

namespace DatasetHosting

/-- The three kinds of hosting. -/
inductive HostKind where
  | standalone
  | dataCenter
  | external
  deriving DecidableEq, Repr, Inhabited

namespace HostKind

/-- Every kind. -/
def all : List HostKind := [standalone, dataCenter, external]

/-- The kind's name in documents. -/
def name : HostKind → String
  | standalone => "standalone"
  | dataCenter => "data_center"
  | external => "external"

/-- The kind's name in log entries. -/
def logName : HostKind → String
  | standalone => "Standalone"
  | dataCenter => "DataCenter"
  | external => "External"

end HostKind

/-- **How to host a dataset.** The formats below the least one, if there is a least one, are refused when
the strategy is carried out, not when it is chosen. -/
inductive Strategy where
  /-- One node with everything on its own disk. -/
  | standalone (minFormat : Option UInt32)
  /-- Several nodes with shared storage. -/
  | dataCenter (nodes : UInt64) (sharedStorage : StorageConfig) (minFormat : Option UInt32)
  /-- A server at the given address that holds the dataset already. -/
  | external (address : String)
  deriving DecidableEq, Repr, Inhabited

namespace Strategy

/-- The kind of a strategy. -/
def kind : Strategy → HostKind
  | standalone _ => .standalone
  | dataCenter .. => .dataCenter
  | external _ => .external

/-- The fewest nodes of a data center. -/
def minNodes : UInt64 := 2

/-- The number of nodes of a data center where none is asked for. -/
def defaultNodes : UInt64 := 2

end Strategy

/-- **A strategy for a certain dataset.** Making one does nothing yet. -/
structure Formula where
  /-- The dataset to host. -/
  dataset : Dataset
  /-- How to host it. -/
  strategy : Strategy
  deriving DecidableEq, Repr

end DatasetHosting
