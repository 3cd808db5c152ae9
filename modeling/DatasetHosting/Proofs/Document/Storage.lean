import DatasetHosting.Document.Storage
import DatasetHosting.Proofs.Document.Json.Format

/-!
# Proofs/Document/Storage — the formats of datasets and of what storage consists of

Each of these records is an object of its own fields, so that it has a format because its fields have.  A plan
is the one that keeps a map: the kinds that have a placement are its keys, and which kinds these are does not
matter (`Placements.ofList_toList`).
-/

namespace DatasetHosting

open Document Json

/-! ## Datasets -/

/-- A region is written as its name alone, without an object around it. -/
theorem Region.isFormat : IsFormat Region.toJson (Region.ofDocument? (α := Json)) where
  isPlain region := isPlain_string region.name
  read_write _ := rfl

theorem Location.isFormat : IsFormat Location.toJson (Location.ofDocument? (α := Json)) where
  isPlain location := IsPlain.record (by simp [Region.isFormat.isPlain])
  read_write location := by
    rw [Location.ofDocument?, Location.toJson, fields?_record (by rfl) (by decide)]
    simp [Fields.required, lookup_cons_of_ne, Region.isFormat.read_write]

/-- The digest of a package is written as a string. -/
theorem Package.isFormat : IsFormat Package.toJson (Package.ofDocument? (α := Json)) where
  isPlain package := IsPlain.record (by simp)
  read_write package := by
    rw [Package.ofDocument?, Package.toJson, fields?_record (by rfl) (by decide)]
    simp [Fields.required, lookup_cons_of_ne]

/-- **Datasets are read back**: the location of the data and its package each in their own object. -/
theorem Dataset.isFormat : IsFormat Dataset.toJson (Dataset.ofDocument? (α := Json)) where
  isPlain dataset := IsPlain.record (by simp [Location.isFormat.isPlain, Package.isFormat.isPlain])
  read_write dataset := by
    rw [Dataset.ofDocument?, Dataset.toJson, fields?_record (by rfl) (by decide)]
    simp [Fields.required, lookup_cons_of_ne, Location.isFormat.read_write, Package.isFormat.read_write]

/-! ## Provisioned storage -/

theorem SharedHome.isFormat : IsFormat SharedHome.toJson (SharedHome.ofDocument? (α := Json)) where
  isPlain home := IsPlain.record (by simp)
  read_write home := by
    rw [SharedHome.ofDocument?, SharedHome.toJson, fields?_record (by rfl) (by decide)]
    simp [Fields.required, lookup_cons_of_ne]

theorem ObjectStore.isFormat : IsFormat ObjectStore.toJson (ObjectStore.ofDocument? (α := Json)) where
  isPlain store := IsPlain.record (by simp [Region.isFormat.isPlain])
  read_write store := by
    rw [ObjectStore.ofDocument?, ObjectStore.toJson, fields?_record (by rfl) (by decide)]
    simp [Fields.required, lookup_cons_of_ne, Region.isFormat.read_write]

/-- Storage without an object store is written with a `null`, which is no object store. -/
theorem SharedStorage.isFormat :
    IsFormat SharedStorage.toJson (SharedStorage.ofDocument? (α := Json)) := by
  have hstore := ObjectStore.isFormat.optional fun _ => Json.noConfusion
  refine ⟨fun storage => IsPlain.record ?_, fun storage => ?_⟩
  · simp [SharedHome.isFormat.isPlain, hstore.isPlain]
  · rw [SharedStorage.ofDocument?, SharedStorage.toJson, fields?_record (by rfl) (by decide)]
    simp [Fields.required, Fields.orDefault, lookup_cons_of_ne, SharedHome.isFormat.read_write,
      hstore.read_write]

/-! ## Placed content -/

/-- Configurations are read back: both fields are written, those with the default value too. -/
theorem StorageConfig.isFormat :
    IsFormat StorageConfig.toJson (StorageConfig.ofDocument? (α := Json)) where
  isPlain config := IsPlain.record (by simp)
  read_write config := by
    rw [StorageConfig.ofDocument?, StorageConfig.toJson, fields?_record (by rfl) (by decide)]
    simp [Fields.orDefault, lookup_cons_of_ne]

/-- The kinds of content have different names. -/
theorem Resource.isFormat : IsFormat Resource.toJson (Resource.ofDocument? (α := Json)) :=
  isFormat_constant fun resource => by cases resource <;> rfl

/-- The placements have different names. -/
theorem Placement.isFormat : IsFormat Placement.toJson (Placement.ofDocument? (α := Json)) :=
  isFormat_constant fun placement => by cases placement <;> rfl

/-- A binding is read back with its kind and its placement. -/
theorem Binding.isFormat : IsFormat Binding.toJson (Binding.ofDocument? (α := Json)) where
  isPlain binding := IsPlain.record (by
    simp [Resource.isFormat.isPlain, Placement.isFormat.isPlain])
  read_write binding := by
    rw [Binding.ofDocument?, Binding.toJson, fields?_record (by rfl) (by decide)]
    simp [Fields.required, lookup_cons_of_ne, Resource.isFormat.read_write, Placement.isFormat.read_write]

namespace Placements

/-- **Placements are what their pairs say**, whichever kinds have one. -/
theorem ofList_toList (placements : Placements) : ofList placements.toList = placements := by
  obtain ⟨_ | avatars, _ | attachments⟩ := placements <;> rfl

/-- Written pairs are read back one by one. -/
theorem mapM_pairOfDocuments? (pairs : List (Resource × Placement)) :
    (pairs.map fun pair => (pair.1.toJson, pair.2.toJson)).mapM pairOfDocuments? = some pairs := by
  induction pairs with
  | nil => rfl
  | cons pair pairs ih =>
    simp [pairOfDocuments?, Resource.isFormat.read_write, Placement.isFormat.read_write, ih]

/-- Placements are a map of the kinds that have one; an empty one is read back too. -/
theorem isFormat : IsFormat Placements.toJson (Placements.ofDocument? (α := Json)) where
  isPlain placements := by
    refine IsPlain.record fun field hfield => ?_
    obtain ⟨pair, -, rfl⟩ := List.mem_map.mp hfield
    exact Placement.isFormat.isPlain pair.2
  read_write placements := by
    have hmap : map? placements.toJson =
        some (placements.toList.map fun pair => (pair.1.toJson, pair.2.toJson)) := by
      simp [map?, toJson, record, Resource.toJson, string, Function.comp_def]
    rw [Placements.ofDocument?, hmap]
    simp only [Option.bind_eq_bind, Option.bind_some, mapM_pairOfDocuments?, ofList_toList,
      Option.pure_def]

end Placements

/-- **Plans are read back**, whichever kinds they place. -/
theorem Plan.isFormat : IsFormat Plan.toJson (Plan.ofDocument? (α := Json)) where
  isPlain plan := IsPlain.record (by simp [Placements.isFormat.isPlain])
  read_write plan := by
    rw [Plan.ofDocument?, Plan.toJson, fields?_record (by rfl) (by decide)]
    simp [Fields.required, lookup_cons_of_ne, Placements.isFormat.read_write]

theorem NodeFile.isFormat : IsFormat NodeFile.toJson (NodeFile.ofDocument? (α := Json)) where
  isPlain file := IsPlain.record (by simp)
  read_write file := by
    rw [NodeFile.ofDocument?, NodeFile.toJson, fields?_record (by rfl) (by decide)]
    simp [Fields.required, lookup_cons_of_ne]

end DatasetHosting
