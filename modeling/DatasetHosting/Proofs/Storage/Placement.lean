import DatasetHosting.Proofs.Storage.Associations

/-!
# Proofs/Storage/Placement — one decision in five places

A plan decides for each kind of content where it is kept.  The bindings, the placement of paths, the need for
an object store, the list of what is kept there and the file store configuration are computed apart from each
other, over placements that need not mention every kind; `Plan.bindings_agree` says that they tell the same.

What carries it is that a kind without a placement counts as node-local everywhere (`Plan.filter_toList`).
-/

namespace DatasetHosting

open DatasetHosting.Text

variable {plan : Plan} {storage : SharedStorage} {bindings : List Binding} {binding : Binding}
  {resource : Resource} {pairs : List (Resource × Placement)}

/-! ## Locations -/

/-- **The binding is where the storage keeps its kind**: below the shared home, less the slashes at its end, or
at the URI of the object store. -/
def Binding.IsLocated (storage : SharedStorage) (binding : Binding) : Prop :=
  match binding.placement with
  | .nodeLocal => False
  | .sharedHome =>
    ∃ base slashes, storage.sharedHome.path.toList = base ++ List.replicate slashes '/' ∧
      base.getLast? ≠ some '/' ∧
      binding.location.toList = base ++ '/' :: binding.resource.homePath.toList
  | .objectStore =>
    ∃ store, storage.objectStore = some store ∧ binding.location = store.uri binding.resource

theorem slash_notMem_target (resource : Resource) : '/' ∉ resource.target.toList := by
  cases resource <;> decide +kernel

theorem target_injective {other : Resource} (h : resource.target = other.target) :
    resource = other := by
  revert h
  cases resource <;> cases other <;> decide

/-- The directory of a kind is named as the kind is. -/
theorem homePath_eq (resource : Resource) :
    resource.homePath.toList = "data".toList ++ '/' :: resource.target.toList := by
  cases resource <;> rfl

/-- **The last piece of a location names the kind**, wherever it is kept. -/
theorem Binding.IsLocated.lastPiece_eq (h : binding.IsLocated storage) :
    lastPiece binding.location.toList = binding.resource.target.toList := by
  have hname := slash_notMem_target binding.resource
  cases hplacement : binding.placement with
  | nodeLocal =>
    rw [IsLocated, hplacement] at h
    exact h.elim
  | sharedHome =>
    rw [IsLocated, hplacement] at h
    obtain ⟨base, slashes, -, -, hlocation⟩ := h
    have hsplit : binding.location.toList =
        (base ++ '/' :: "data".toList) ++ '/' :: binding.resource.target.toList := by
      rw [hlocation, homePath_eq]
      simp
    rw [hsplit, lastPiece_append hname]
  | objectStore =>
    rw [IsLocated, hplacement] at h
    obtain ⟨store, -, hlocation⟩ := h
    have hsplit : binding.location.toList =
        ("s3://" ++ store.bucket).toList ++ '/' :: binding.resource.target.toList := by
      rw [hlocation, ObjectStore.uri]
      simp
    rw [hsplit, lastPiece_append hname]

namespace Plan

theorem isLocated_of_binding? {placement : Placement} {found : Binding}
    (h : binding? storage resource placement = .ok (some found)) : found.IsLocated storage := by
  cases placement with
  | nodeLocal => cases h
  | sharedHome =>
    obtain rfl := Option.some.inj (Except.ok.inj h)
    obtain ⟨slashes, hslashes⟩ := exists_replicate_dropEndSlashes storage.sharedHome.path.toList
    refine ⟨_, slashes, hslashes, getLast?_dropEndSlashes _, ?_⟩
    rw [underDirectory, String.toList_ofList]
  | objectStore =>
    rw [binding?] at h
    cases hstore : storage.objectStore with
    | none =>
      rw [hstore] at h
      cases h
    | some store =>
      rw [hstore] at h
      obtain rfl := Option.some.inj (Except.ok.inj h)
      exact ⟨store, hstore, rfl⟩

theorem isLocated_of_bindingsOf (h : bindingsOf storage pairs = .ok bindings)
    (hbinding : binding ∈ bindings) : binding.IsLocated storage := by
  induction pairs generalizing bindings with
  | nil =>
    obtain rfl := Except.ok.inj h
    cases hbinding
  | cons pair pairs ih =>
    obtain ⟨first, others, hfirst, hothers, rfl⟩ := bindingsOf_cons_eq_ok_iff.mp h
    rcases List.mem_append.mp hbinding with hmem | hmem
    · obtain rfl := Option.mem_toList.mp hmem
      exact isLocated_of_binding? hfirst
    · exact ih hothers hmem

/-! ## Kinds without a placement -/

/-- **What is asked of placements may be asked of kinds**, as long as it is not asked of what stays on the
node. -/
theorem filter_toList (plan : Plan) (asks : Placement → Bool) (hlocal : asks .nodeLocal = false) :
    plan.placements.toList.filter (asks ·.2) =
      (Resource.all.filter fun resource => asks (plan.placement resource)).map
        fun resource => (resource, plan.placement resource) := by
  rw [Placements.toList]
  induction Resource.all with
  | nil => rfl
  | cons resource rest ih =>
    rw [List.filterMap_cons, List.filter_cons]
    cases hplacement : plan.placements.get? resource with
    | none =>
      have hnone : plan.placement resource = .nodeLocal := by rw [placement, hplacement]; rfl
      simpa [hnone, hlocal] using ih
    | some placement =>
      have hsome : plan.placement resource = placement := by rw [Plan.placement, hplacement]; rfl
      rw [Option.map_some, List.filter_cons, ih, hsome]
      cases asks placement <;> simp [hsome]

theorem objectStoreResources_eq (plan : Plan) :
    plan.objectStoreResources =
      Resource.all.filter fun resource => plan.placement resource == .objectStore := by
  rw [objectStoreResources, filter_toList plan (· == .objectStore) rfl, List.map_map]
  exact List.map_id _

/-- **The object store is needed** exactly if something is kept there. -/
theorem needsObjectStore_iff : plan.needsObjectStore = true ↔ plan.objectStoreResources ≠ [] := by
  rw [needsObjectStore, objectStoreResources, ne_eq, List.map_eq_nil_iff, List.filter_eq_nil_iff,
    List.any_eq_true]
  simp

/-! ## Bindings -/

theorem map_assignment_eq (h : plan.bindings storage = .ok bindings) :
    bindings.map Binding.assignment =
      (Resource.all.filter fun resource => plan.placement resource != .nodeLocal).map
        fun resource => (resource, plan.placement resource) :=
  (map_assignment_bindings h).trans (filter_toList plan (· != .nodeLocal) rfl)

/-- **The kinds bound in the object store** are those that the plan keeps there. -/
theorem map_resource_filter_bindings (h : plan.bindings storage = .ok bindings) :
    (bindings.filter (·.placement == .objectStore)).map (·.resource) = plan.objectStoreResources := by
  have hplacement : ∀ placement : Placement,
      (placement == .objectStore && placement != .nodeLocal) = (placement == .objectStore) := by
    intro placement
    cases placement <;> rfl
  have hassigned : (bindings.filter (·.placement == .objectStore)).map (·.resource) =
      ((bindings.map Binding.assignment).filter (·.2 == .objectStore)).map Prod.fst := by
    rw [List.filter_map, List.map_map]
    rfl
  rw [hassigned, map_assignment_bindings h, List.filter_filter, objectStoreResources]
  simp only [hplacement]

/-- Without an object store the first kind that belongs there is missed. -/
theorem find?_of_bindingsOf_error {error : MissingObjectStore} (hnone : storage.objectStore = none)
    (h : bindingsOf storage pairs = .error error) :
    pairs.find? (·.2 == .objectStore) = some (error.resource, .objectStore) := by
  induction pairs with
  | nil => cases h
  | cons pair pairs ih =>
    obtain ⟨resource, placement⟩ := pair
    have hrest : placement ≠ .objectStore → bindingsOf storage pairs = .error error := by
      intro hother
      obtain ⟨first, hfirst⟩ : ∃ first, binding? storage resource placement = .ok first :=
        (exists_binding?_iff resource).mpr fun hstore => absurd hstore hother
      rw [bindingsOf, hfirst] at h
      cases hpairs : bindingsOf storage pairs with
      | error cause =>
        rw [hpairs] at h
        exact congrArg _ (Except.error.inj h)
      | ok others =>
        rw [hpairs] at h
        cases h
    cases placement with
    | objectStore =>
      rw [bindingsOf, binding?, hnone] at h
      obtain rfl := Except.error.inj h
      rfl
    | nodeLocal | sharedHome =>
      rw [List.find?_cons_of_neg Bool.false_ne_true]
      exact ih (hrest (by decide))

theorem exists_bindings_error_iff :
    (∃ error, plan.bindings storage = .error error) ↔
      plan.needsObjectStore = true ∧ storage.objectStore = none := by
  have hother : (∃ error, plan.bindings storage = .error error) ↔
      ¬∃ bindings, plan.bindings storage = .ok bindings := by
    cases plan.bindings storage <;> simp
  rw [hother, exists_bindings_iff]
  simp

/-- **The error names the first kind** that the plan keeps in the object store. -/
theorem find?_of_bindings_error {error : MissingObjectStore}
    (h : plan.bindings storage = .error error) :
    (Resource.all.find? fun resource => plan.placement resource == .objectStore) =
      some error.resource := by
  obtain ⟨-, hnone⟩ := exists_bindings_error_iff.mp ⟨error, h⟩
  rw [← List.head?_filter, ← objectStoreResources_eq, objectStoreResources, List.head?_map,
    List.head?_filter, find?_of_bindingsOf_error hnone h]
  rfl

/-! ## Everything agrees -/

/-- **The bindings say what the plan says**, on the given storage. -/
structure IsBoundBy (plan : Plan) (storage : SharedStorage) (bindings : List Binding) : Prop where
  /-- There is one for each kind that leaves the node, in the order of the kinds, and no other. -/
  kinds : bindings.map (·.resource) =
    Resource.all.filter fun resource => plan.placement resource != .nodeLocal
  /-- Each has the placement of its kind. -/
  placed : ∀ binding ∈ bindings, binding.placement = plan.placement binding.resource
  /-- Each is where the storage keeps its kind. -/
  located : ∀ binding ∈ bindings, binding.IsLocated storage
  /-- No two have the same location. -/
  apart : (bindings.map (·.location)).Nodup
  /-- A path that holds a kind with a binding is kept where the binding is, -/
  bound : ∀ path, ∀ binding ∈ bindings, (HomeContent.ofPath path).resource? = some binding.resource →
    plan.placementOf (.ofPath path) = binding.placement
  /-- and every other path on the node. -/
  unbound : ∀ path,
    (∀ binding ∈ bindings, (HomeContent.ofPath path).resource? ≠ some binding.resource) →
      plan.placementOf (.ofPath path) = .nodeLocal
  /-- A file store configuration is written exactly if the plan needs the object store, -/
  written : ∀ store, (NodeFile.filestoreConfig? store bindings).isSome = plan.needsObjectStore
  /-- and it associates what the plan keeps there, one line for each kind. -/
  associated : ∀ store file, NodeFile.filestoreConfig? store bindings = some file →
    NodeFile.associationLines file.contents =
      plan.objectStoreResources.map NodeFile.associationLine

theorem map_resource_bindings (h : plan.bindings storage = .ok bindings) :
    bindings.map (·.resource) =
      Resource.all.filter fun resource => plan.placement resource != .nodeLocal := by
  have hassigned : bindings.map (·.resource) = (bindings.map Binding.assignment).map Prod.fst := by
    rw [List.map_map]
    rfl
  rw [hassigned, map_assignment_eq h, List.map_map]
  exact List.map_id _

theorem placement_of_mem_bindings (h : plan.bindings storage = .ok bindings)
    (hbinding : binding ∈ bindings) : binding.placement = plan.placement binding.resource := by
  have hassigned : binding.assignment ∈ bindings.map Binding.assignment :=
    List.mem_map_of_mem hbinding
  rw [map_assignment_eq h] at hassigned
  obtain ⟨resource, -, hsame⟩ := List.mem_map.mp hassigned
  obtain ⟨rfl, hplacement⟩ := Prod.mk.inj hsame
  exact hplacement.symm

/-- **No two bindings have the same location**: the last pieces name their kinds. -/
theorem nodup_map_location_bindings (h : plan.bindings storage = .ok bindings) :
    (bindings.map (·.location)).Nodup := by
  have hkinds := List.pairwise_map.mp (nodup_map_resource_bindings h)
  refine List.pairwise_map.mpr (hkinds.imp_of_mem ?_)
  intro first second hfirst hsecond hne hsame
  refine hne (target_injective (String.toList_inj.mp ?_))
  rw [← (isLocated_of_bindingsOf h hfirst).lastPiece_eq, hsame,
    (isLocated_of_bindingsOf h hsecond).lastPiece_eq]

/-- Content is placed where the binding of its kind says. -/
theorem placementOf_of_mem_bindings (h : plan.bindings storage = .ok bindings)
    (hbinding : binding ∈ bindings) {content : HomeContent}
    (hcontent : content.resource? = some binding.resource) :
    plan.placementOf content = binding.placement := by
  rw [placementOf, hcontent, placement_of_mem_bindings h hbinding]

/-- Content without a binding stays on the node, since a kind that leaves the node would have one. -/
theorem placementOf_of_forall_ne (h : plan.bindings storage = .ok bindings) {content : HomeContent}
    (hcontent : ∀ binding ∈ bindings, content.resource? ≠ some binding.resource) :
    plan.placementOf content = .nodeLocal := by
  rw [placementOf]
  cases hresource : content.resource? with
  | none => rfl
  | some resource =>
    by_contra hplaced
    have hkind : resource ∈ bindings.map (·.resource) := by
      rw [map_resource_bindings h, List.mem_filter]
      exact ⟨by cases resource <;> decide, bne_iff_ne.mpr hplaced⟩
    obtain ⟨binding, hbinding, rfl⟩ := List.mem_map.mp hkind
    exact hcontent binding hbinding hresource

theorem isBoundBy_of_bindings (h : plan.bindings storage = .ok bindings) :
    plan.IsBoundBy storage bindings where
  kinds := map_resource_bindings h
  placed _ hbinding := placement_of_mem_bindings h hbinding
  located _ hbinding := isLocated_of_bindingsOf h hbinding
  apart := nodup_map_location_bindings h
  bound _ _ hbinding hcontent := placementOf_of_mem_bindings h hbinding hcontent
  unbound _ hcontent := placementOf_of_forall_ne h hcontent
  written store := (NodeFile.isSome_filestoreConfig? store bindings).trans (any_bindings_eq h)
  associated store file hfile := by
    rw [NodeFile.associationLines_filestoreConfig? hfile, map_resource_filter_bindings h]

/-- **A plan, its bindings, its file store configuration and the placement of paths agree**, whatever the plan
is and whichever kinds it mentions.  Only a missing object store that the plan needs keeps it from being carried
out, and the error names the first kind that misses it. -/
theorem bindings_agree (plan : Plan) (storage : SharedStorage) :
    (plan.needsObjectStore = true ↔ plan.objectStoreResources ≠ []) ∧
    ((∃ error, plan.bindings storage = .error error) ↔
      plan.needsObjectStore = true ∧ storage.objectStore = none) ∧
    (∀ error, plan.bindings storage = .error error →
      (Resource.all.find? fun resource => plan.placement resource == .objectStore) =
        some error.resource) ∧
    ∀ bindings, plan.bindings storage = .ok bindings → plan.IsBoundBy storage bindings :=
  ⟨needsObjectStore_iff, exists_bindings_error_iff, fun _ => find?_of_bindings_error,
    fun _ => isBoundBy_of_bindings⟩

end Plan

end DatasetHosting
