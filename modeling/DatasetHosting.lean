import DatasetHosting.Cluster.Call
import DatasetHosting.Dataset.WellKnown
import DatasetHosting.Document.CatalogueFile
import DatasetHosting.Document.Cluster
import DatasetHosting.Document.Json.Writer
import DatasetHosting.Host.Resolution
import DatasetHosting.Proofs.Condition.Evaluation
import DatasetHosting.Proofs.Host.Resolution
import DatasetHosting.Proofs.Cluster.Operation
import DatasetHosting.Proofs.Cluster.Sequence
import DatasetHosting.Proofs.Host.Validation
import DatasetHosting.Proofs.Cluster.Build
import DatasetHosting.Proofs.Cluster.View
import DatasetHosting.Proofs.Cluster.Readiness
import DatasetHosting.Proofs.Cluster.RollBack
import DatasetHosting.Proofs.Storage.Plan
import DatasetHosting.Proofs.Cluster.DataCenter
import DatasetHosting.Proofs.Cluster.FailedDataCenter
import DatasetHosting.Proofs.Cluster.BuiltNode
import DatasetHosting.Proofs.Cluster.HostedDataCenter
import DatasetHosting.Proofs.Condition.Print
import DatasetHosting.Proofs.Cluster.Lifecycle
import DatasetHosting.Proofs.Host.Agreement
import DatasetHosting.Proofs.Condition.Composition
import DatasetHosting.Proofs.Host.Composition
import DatasetHosting.Proofs.Cluster.Observation
import DatasetHosting.Proofs.Cluster.Discipline
import DatasetHosting.Proofs.Cluster.Replay
import DatasetHosting.Proofs.Document.Json.Text
import DatasetHosting.Proofs.Document.Json.Spacing
import DatasetHosting.Proofs.Document.Json.Value
import DatasetHosting.Proofs.Document.Json.Format
import DatasetHosting.Proofs.Document.Json.Layout
import DatasetHosting.Proofs.Document.Json.Data
import DatasetHosting.Proofs.Document.Storage
import DatasetHosting.Proofs.Document.CatalogueLayout
import DatasetHosting.Proofs.Document.Host
import DatasetHosting.Proofs.Text.Whole
import DatasetHosting.Proofs.Condition.Comparison
import DatasetHosting.Proofs.Text.Slash
import DatasetHosting.Proofs.Storage.Home
import DatasetHosting.Proofs.Host.Standard
import DatasetHosting.Proofs.Host.Subnet
import DatasetHosting.Proofs.Text.Quoted
import DatasetHosting.Proofs.Condition.Message
import DatasetHosting.Proofs.Condition.Failure
import DatasetHosting.Proofs.Host.Offence
import DatasetHosting.Proofs.Host.Numbers
import DatasetHosting.Proofs.Condition.Dependence
import DatasetHosting.Proofs.Condition.Order
import DatasetHosting.Proofs.Condition.Atoms
import DatasetHosting.Proofs.Condition.Negation
import DatasetHosting.Proofs.Storage.Layout
import DatasetHosting.Proofs.Storage.Associations
import DatasetHosting.Proofs.Storage.Placement
import DatasetHosting.Proofs.Storage.Markup
import DatasetHosting.Proofs.Cluster.InPlace
import DatasetHosting.Proofs.Text.Pieces
import DatasetHosting.Proofs.Dataset.Location
import DatasetHosting.Proofs.Cluster.History
import DatasetHosting.Proofs.Cluster.FileHistory
import DatasetHosting.Proofs.Cluster.Asking
import DatasetHosting.Proofs.Cluster.Release
import DatasetHosting.Proofs.Cluster.MountLeftBehind
import DatasetHosting.Proofs.Condition.Descent
import DatasetHosting.Proofs.Condition.Progress
