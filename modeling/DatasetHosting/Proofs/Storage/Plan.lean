import DatasetHosting.Storage.NodeFile

/-!
# Proofs/Storage/Plan — what the bindings of a plan say

A plan can be carried out on storage exactly if the storage has an object store or the plan keeps nothing
in one (`Plan.exists_bindings_iff`).  Its bindings then place the kinds as the plan does, in the same order
and without those that stay on the node (`Plan.map_assignment_bindings`), so a file store configuration is
written exactly if the plan needs the object store.
-/

namespace DatasetHosting

/-- The kind that a binding is for, and its placement. -/
def Binding.assignment (binding : Binding) : Resource × Placement :=
  (binding.resource, binding.placement)

namespace Plan

variable {plan : Plan} {storage : SharedStorage} {bindings : List Binding}
  {pairs : List (Resource × Placement)}

/-! ## One kind -/

/-- Only a placement in an object store that is missing keeps a kind from its binding. -/
theorem exists_binding?_iff (resource : Resource) {placement : Placement} :
    (∃ first, binding? storage resource placement = .ok first) ↔
      (placement = .objectStore → storage.objectStore.isSome = true) := by
  cases placement with
  | nodeLocal => exact iff_of_true ⟨_, rfl⟩ (by rintro ⟨⟩)
  | sharedHome => exact iff_of_true ⟨_, rfl⟩ (by rintro ⟨⟩)
  | objectStore =>
    rw [binding?]
    cases storage.objectStore with
    | none => exact iff_of_false (by rintro ⟨_, ⟨⟩⟩) fun h => Bool.false_ne_true (h rfl)
    | some store => exact iff_of_true ⟨_, rfl⟩ fun _ => rfl

/-- A binding assigns the kind the placement it was asked for, and content left on the node has none. -/
theorem assignment_binding? {resource : Resource} {placement : Placement} {first : Option Binding}
    (h : binding? storage resource placement = .ok first) :
    first.toList.map Binding.assignment = [(resource, placement)].filter (·.2 != .nodeLocal) := by
  cases placement with
  | nodeLocal =>
    obtain rfl := Except.ok.inj h
    rfl
  | sharedHome =>
    obtain rfl := Except.ok.inj h
    rfl
  | objectStore =>
    rw [binding?] at h
    cases hstore : storage.objectStore with
    | none =>
      rw [hstore] at h
      cases h
    | some store =>
      rw [hstore] at h
      obtain rfl := Except.ok.inj h
      rfl

/-! ## All kinds -/

theorem bindingsOf_cons_eq_ok_iff {resource : Resource} {placement : Placement} :
    bindingsOf storage ((resource, placement) :: pairs) = .ok bindings ↔
      ∃ first others, binding? storage resource placement = .ok first ∧
        bindingsOf storage pairs = .ok others ∧ bindings = first.toList ++ others := by
  rw [bindingsOf]
  cases binding? storage resource placement with
  | error error => exact iff_of_false (by rintro ⟨⟩) (by rintro ⟨_, _, ⟨⟩, -⟩)
  | ok first =>
    cases bindingsOf storage pairs with
    | error error => exact iff_of_false (by rintro ⟨⟩) (by rintro ⟨_, _, -, ⟨⟩, -⟩)
    | ok others =>
      constructor
      · intro h
        exact ⟨first, others, rfl, rfl, (Except.ok.inj h).symm⟩
      · rintro ⟨_, _, hfirst, hothers, rfl⟩
        obtain rfl := Except.ok.inj hfirst
        obtain rfl := Except.ok.inj hothers
        rfl

/-- The bindings of pairs exist if every pair has its own. -/
theorem exists_bindingsOf_iff :
    (∃ bindings, bindingsOf storage pairs = .ok bindings) ↔
      ∀ pair ∈ pairs, pair.2 = .objectStore → storage.objectStore.isSome = true := by
  induction pairs with
  | nil => exact iff_of_true ⟨[], rfl⟩ fun _ hpair => absurd hpair List.not_mem_nil
  | cons pair pairs ih =>
    rw [List.forall_mem_cons, ← ih, ← exists_binding?_iff pair.1]
    constructor
    · rintro ⟨bindings, h⟩
      obtain ⟨first, others, hfirst, hothers, -⟩ := bindingsOf_cons_eq_ok_iff.mp h
      exact ⟨⟨first, hfirst⟩, others, hothers⟩
    · rintro ⟨⟨first, hfirst⟩, others, hothers⟩
      exact ⟨_, bindingsOf_cons_eq_ok_iff.mpr ⟨first, others, hfirst, hothers, rfl⟩⟩

/-- **The bindings assign what the pairs assign**, in their order, less what stays on the node. -/
theorem map_assignment_bindingsOf (h : bindingsOf storage pairs = .ok bindings) :
    bindings.map Binding.assignment = pairs.filter (·.2 != .nodeLocal) := by
  induction pairs generalizing bindings with
  | nil =>
    obtain rfl := Except.ok.inj h
    rfl
  | cons pair pairs ih =>
    obtain ⟨first, others, hfirst, hothers, rfl⟩ := bindingsOf_cons_eq_ok_iff.mp h
    rw [List.map_append, assignment_binding? hfirst, ih hothers, ← List.filter_append]
    rfl

/-- **The bindings place kinds as the plan does**, but for those that stay on the node. -/
theorem map_assignment_bindings (h : plan.bindings storage = .ok bindings) :
    bindings.map Binding.assignment = plan.placements.toList.filter (·.2 != .nodeLocal) :=
  map_assignment_bindingsOf h

/-! ## The object store -/

/-- **A plan can be carried out** on storage that has an object store, or without one if it keeps nothing
there. -/
theorem exists_bindings_iff :
    (∃ bindings, plan.bindings storage = .ok bindings) ↔
      plan.needsObjectStore = false ∨ storage.objectStore.isSome = true := by
  refine exists_bindingsOf_iff.trans ⟨fun h => ?_, ?_⟩
  · by_cases hneeds : plan.needsObjectStore = true
    · obtain ⟨pair, hpair, hstore⟩ := List.any_eq_true.mp hneeds
      exact .inr (h pair hpair (beq_iff_eq.mp hstore))
    · exact .inl (Bool.eq_false_iff.mpr hneeds)
  · rintro (hneeds | hstorage) pair hpair hstore
    · exact absurd (beq_iff_eq.mpr hstore) (List.any_eq_false.mp hneeds pair hpair)
    · exact hstorage

/-- The object store that bindings need is there. -/
theorem isSome_objectStore_of_bindings (h : plan.bindings storage = .ok bindings) {binding : Binding}
    (hmem : binding ∈ bindings) (hplacement : binding.placement = .objectStore) :
    storage.objectStore.isSome = true := by
  have hpair : binding.assignment ∈ plan.placements.toList := by
    have hassigned : binding.assignment ∈ bindings.map Binding.assignment := List.mem_map_of_mem hmem
    rw [map_assignment_bindings h] at hassigned
    exact (List.mem_filter.mp hassigned).1
  exact exists_bindingsOf_iff.mp ⟨bindings, h⟩ _ hpair hplacement

/-- **Some binding is in the object store** exactly if the plan needs one. -/
theorem any_bindings_eq (h : plan.bindings storage = .ok bindings) :
    bindings.any (·.placement == .objectStore) = plan.needsObjectStore := by
  have hassigned : bindings.any (·.placement == .objectStore) =
      (bindings.map Binding.assignment).any (·.2 == .objectStore) := by
    rw [List.any_map]
    rfl
  have hplacement : ∀ placement : Placement,
      (placement != .nodeLocal && placement == .objectStore) = (placement == .objectStore) := by
    intro placement
    cases placement <;> rfl
  rw [hassigned, map_assignment_bindings h, List.any_filter, needsObjectStore]
  simp only [hplacement]

/-! ## One binding for a kind -/

theorem nodup_map_fst_toList (placements : Placements) :
    (placements.toList.map Prod.fst).Nodup := by
  have hkinds : placements.toList.map Prod.fst =
      Resource.all.filter fun resource => (placements.get? resource).isSome := by
    obtain ⟨avatars, attachments⟩ := placements
    cases avatars <;> cases attachments <;> rfl
  have hall : Resource.all.Nodup := by decide
  rw [hkinds]
  exact hall.sublist List.filter_sublist

/-- **No kind is bound twice.** -/
theorem nodup_map_resource_bindings (h : plan.bindings storage = .ok bindings) :
    (bindings.map (·.resource)).Nodup := by
  have hkinds : bindings.map (·.resource) = (bindings.map Binding.assignment).map Prod.fst := by
    rw [List.map_map]
    rfl
  rw [hkinds, map_assignment_bindings h]
  exact (nodup_map_fst_toList _).sublist ((List.filter_sublist).map _)

end Plan

namespace NodeFile

variable {store : ObjectStore} {bindings : List Binding}

/-! ## The file store configuration -/

/-- A file store is configured where something is placed in the object store. -/
theorem isSome_filestoreConfig? (store : ObjectStore) (bindings : List Binding) :
    (filestoreConfig? store bindings).isSome = bindings.any (·.placement == .objectStore) := by
  rw [filestoreConfig?]
  cases hstored : bindings.filter (·.placement == .objectStore) with
  | nil =>
    have hnone := List.filter_eq_nil_iff.mp hstored
    exact (List.any_eq_false.mpr hnone).symm
  | cons binding rest =>
    have hmem : binding ∈ bindings.filter (·.placement == .objectStore) :=
      hstored ▸ List.mem_cons_self
    obtain ⟨hbinding, hplacement⟩ := List.mem_filter.mp hmem
    exact (List.any_eq_true.mpr ⟨binding, hbinding, hplacement⟩).symm

theorem filestoreConfig?_name {file : NodeFile} (h : filestoreConfig? store bindings = some file) :
    file.name = "filestore-config.xml" := by
  rw [filestoreConfig?] at h
  split at h
  · cases h
  · obtain rfl := Option.some.inj h
    rfl

end NodeFile

end DatasetHosting
