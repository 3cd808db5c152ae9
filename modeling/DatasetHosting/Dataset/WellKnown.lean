import DatasetHosting.Dataset.Basic

/-!
# Dataset/WellKnown — datasets with a name

Two large datasets are published for everyone. Four small ones serve scenarios: one for each format the
standard catalogue knows, one that asks for three nodes, and one whose identifier is malformed.
-/

namespace DatasetHosting.Dataset

/-! ## Published datasets -/

/-- Two million issues in format 7. -/
def largeJiraSeven : Dataset :=
  publishedAt
      ⟨"s3://jpt-custom-datasets-storage-a008820-datasetbucket-1sjxdtrv5hdhj/" ++
        "dataset-d4684761-116b-49ae-9cce-e45cecdcae2a", ⟨"EU_WEST_1"⟩⟩ 7
    |>.withLabel "2M issues, format 7"
    |>.withDatabaseMinutes 17
    |>.withJiraHomeMinutes 21

/-- Two million issues in format 8. -/
def largeJiraEight : Dataset :=
  publishedAt
      ⟨"s3://jpt-custom-datasets-storage-a008820-datasetbucket-dah44h6l1l8p/" ++
        "dataset-631c70d4-084b-455c-9785-b01068b9f07c", ⟨"EU_CENTRAL_1"⟩⟩ 8
    |>.withLabel "2M issues, format 8"
    |>.withDatabaseMinutes 17
    |>.withJiraHomeMinutes 21

/-! ## Datasets for scenarios -/

/-- The dataset of the given identifier in the storage for scenarios. -/
def stored (id region : String) (format : UInt32) : Dataset :=
  publishedAt ⟨"s3://perf-datasets/" ++ id, ⟨region⟩⟩ format

/-- A dataset of format 8. -/
def formatEight : Dataset :=
  stored "dataset-631c70d4-084b-455c-9785-b01068b9f07c" "EU_CENTRAL_1" 8

/-- A dataset of format 7. -/
def formatSeven : Dataset :=
  stored "dataset-d4684761-116b-49ae-9cce-e45cecdcae2a" "EU_WEST_1" 7

/-- A dataset whose label asks for three nodes. -/
def threeNode : Dataset :=
  (stored "dataset-0e4f8a52-7c1b-4d8e-9a3f-5b2c6d7e8f90" "US_EAST_1" 8).withLabel "large-cluster"

/-- A dataset whose identifier holds no UUID. -/
def malformed : Dataset :=
  { formatEight with id := "dataset-not-a-uuid" }

end DatasetHosting.Dataset
