import DatasetHosting.Dataset.WellKnown
import DatasetHosting.Proofs.Cluster.FileHistory

/-!
# Proofs/Cluster/MountLeftBehind — shared content that is bound without storage

Content for the object store is bound only while there is storage.  Content for the shared home asks for the
mount of its node instead.  A mount is made while there is storage, but releasing the storage touches no node,
so a mount can be left behind (`LeavesMount`).  A history tells who mounts a shared home (`HasMounted`) and
whose mount was left behind; each call keeps the two in step with the state (`Backend.RecordsMount.next`).  So
the binds of shared content that succeed without storage are known exactly
(`Backend.binds_without_storage_iff`).
-/

namespace DatasetHosting

variable {node : String} {call : Call} {calls : List Call}

/-! ## Mounts in a history -/

namespace Call

/-- Whether the call mounts a shared home on the node. -/
def mounts (node : String) : Call → Bool
  | mountSharedHome address _ => address.name == node
  | _ => false

/-- Whether the call provisions the storage of a cluster. -/
def provisionsStorage : Call → Bool
  | provisionSharedStorage .. => true
  | _ => false

theorem provisions_of_mounts (h : call.mounts node = true) : call.provisions node = false := by
  cases call with
  | mountSharedHome => rfl
  | _ => cases h

end Call

/-- **The node mounts a shared home** since it was last provisioned. -/
def HasMounted (node : String) (calls : List Call) : Prop :=
  ∃ call ∈ sinceProvisioned node calls, call.mounts node = true

/-- **A mount left behind**: the storage was released while the node had it mounted, and neither the node nor
any storage has been provisioned since. -/
def LeavesMount (node : String) (calls : List Call) : Prop :=
  ∃ earlier later, calls = earlier ++ .releaseSharedStorage :: later ∧ HasMounted node earlier ∧
    ∀ call ∈ later, call.provisions node = false ∧ call.provisionsStorage = false

theorem hasMounted_concat :
    HasMounted node (calls ++ [call]) ↔
      call.mounts node = true ∨ HasMounted node calls ∧ call.provisions node = false := by
  simp only [HasMounted, sinceProvisioned]
  by_cases h : call.provisions node = true
  · have hmounts : call.mounts node = false := by
      refine Bool.eq_false_iff.mpr fun hmounts => ?_
      simp [Call.provisions_of_mounts hmounts] at h
    rw [List.rtakeWhile_concat_neg _ _ _ (by simp [h])]
    simp [h, hmounts]
  · rw [List.rtakeWhile_concat_pos _ _ _ (by simp [h])]
    simp only [List.mem_append, List.mem_singleton]
    constructor
    · rintro ⟨other, hother | rfl, hmounts⟩
      · exact .inr ⟨⟨other, hother, hmounts⟩, by simpa using h⟩
      · exact .inl hmounts
    · rintro (hmounts | ⟨⟨other, hother, hmounts⟩, -⟩)
      · exact ⟨call, .inr rfl, hmounts⟩
      · exact ⟨other, .inl hother, hmounts⟩

theorem leavesMount_concat :
    LeavesMount node (calls ++ [call]) ↔
      call = .releaseSharedStorage ∧ HasMounted node calls ∨
        LeavesMount node calls ∧ call.provisions node = false ∧ call.provisionsStorage = false := by
  constructor
  · rintro ⟨earlier, later, hsplit, hmounted, hlater⟩
    rcases List.eq_nil_or_concat later with rfl | ⟨more, last, rfl⟩
    · obtain ⟨rfl, hlast⟩ := List.append_inj' hsplit rfl
      exact .inl ⟨List.singleton_inj.mp hlast, hmounted⟩
    · have hfront : calls ++ [call] = (earlier ++ .releaseSharedStorage :: more) ++ [last] := by
        simpa using hsplit
      obtain ⟨rfl, hlast⟩ := List.append_inj' hfront rfl
      obtain rfl := List.singleton_inj.mp hlast
      obtain ⟨hmore, hcall⟩ := List.forall_mem_append.mp (List.concat_eq_append ▸ hlater)
      exact .inr ⟨⟨earlier, more, rfl, hmounted, hmore⟩, hcall call List.mem_cons_self⟩
  · rintro (⟨rfl, hmounted⟩ | ⟨⟨earlier, later, rfl, hmounted, hlater⟩, hcall⟩)
    · exact ⟨calls, [], rfl, hmounted, by simp⟩
    · refine ⟨earlier, later ++ [call], by simp, hmounted, List.forall_mem_append.mpr ⟨hlater, ?_⟩⟩
      simpa using hcall

/-! ## Mounts in the state -/

namespace Backend

variable {backend : Backend}

/-- The shared home that a node mounts. -/
def mount? (backend : Backend) (node : String) : Option SharedHome :=
  (backend.nodes.get? node).bind (·.mounted)

theorem mount?_next_of_provisions (h : call.provisions node = true) :
    (backend.next call).mount? node = none := by
  cases call with
  | provisionNode spec =>
    have hnode : (Call.provisionNode spec).node? = some node := congrArg some (beq_iff_eq.mp h)
    rw [mount?, next_get?_self hnode]
    rfl
  | _ => cases h

/-- A mount needs storage, and its node mounts something then. -/
theorem mount?_next_of_mounts (hfree : backend.obstacle? call = none) (h : call.mounts node = true) :
    backend.storage.isSome = true ∧ ((backend.next call).mount? node).isSome = true := by
  cases call with
  | mountSharedHome address home =>
    obtain rfl : address.name = node := beq_iff_eq.mp h
    rw [obstacle?] at hfree
    split at hfree
    · cases hfree
    · next hstorage =>
      refine ⟨by simpa [Option.isSome_iff_ne_none] using hstorage, ?_⟩
      rw [mount?, next_get?_self rfl]
      cases hstate : backend.nodes.get? address.name with
      | none =>
        rw [unknown?, hstate] at hfree
        cases hfree
      | some state => rfl
  | _ => cases h

/-- **Nothing else touches a mount**, not even the release of the storage. -/
theorem mount?_next_of_other (hnew : call.provisions node = false) (hmounts : call.mounts node = false) :
    (backend.next call).mount? node = backend.mount? node := by
  by_cases hnode : call.node? = some node
  · rw [mount?, next_get?_self hnode, mount?]
    cases call with
    | provisionNode spec =>
      obtain rfl := Option.some.inj hnode
      simp [Call.provisions] at hnew
    | mountSharedHome address home =>
      obtain rfl := Option.some.inj hnode
      simp [Call.mounts] at hmounts
    | _ => cases backend.nodes.get? node <;> rfl
  · rw [mount?, next_get?_of_ne hnode, mount?]

theorem storage_next_of_provisionsStorage (h : call.provisionsStorage = true) :
    (backend.next call).storage.isSome = true := by
  cases call with
  | provisionSharedStorage => rfl
  | _ => cases h

theorem storage_next_of_other (hnew : call.provisionsStorage = false)
    (hrelease : call ≠ .releaseSharedStorage) :
    (backend.next call).storage = backend.storage := by
  cases call with
  | provisionSharedStorage => cases hnew
  | releaseSharedStorage => exact absurd rfl hrelease
  | _ => exact next_storage_of_node rfl

/-! ## Whole histories -/

/-- **State and history agree on the mount of a node**: whether there is one, and whether there is one without
storage. -/
structure RecordsMount (backend : Backend) (node : String) (calls : List Call) : Prop where
  mounted : (backend.mount? node).isSome = true ↔ HasMounted node calls
  leftBehind : (backend.mount? node).isSome = true ∧ backend.storage = none ↔ LeavesMount node calls

/-- A mount left behind was made. -/
theorem RecordsMount.hasMounted (h : backend.RecordsMount node calls) (hleft : LeavesMount node calls) :
    HasMounted node calls :=
  h.mounted.mp (h.leftBehind.mpr hleft).1

/-- A node that is provisioned mounts nothing. -/
theorem RecordsMount.next_of_provisions (hnew : call.provisions node = true) :
    (backend.next call).RecordsMount node (calls ++ [call]) := by
  have hrelease : call ≠ .releaseSharedStorage := by
    rintro rfl
    cases hnew
  have hmounts : call.mounts node ≠ true := fun hmounts => by
    simp [Call.provisions_of_mounts hmounts] at hnew
  constructor
  · simp [hasMounted_concat, mount?_next_of_provisions hnew, hnew, hmounts]
  · simp [leavesMount_concat, mount?_next_of_provisions hnew, hnew, hrelease]

/-- Where there is storage to mount, no mount is left behind. -/
theorem RecordsMount.next_of_mounts (h : backend.RecordsMount node calls)
    (hfree : backend.obstacle? call = none) (hmounts : call.mounts node = true) :
    (backend.next call).RecordsMount node (calls ++ [call]) := by
  obtain ⟨hstorage, hmounted⟩ := mount?_next_of_mounts hfree hmounts
  have hkept : call.provisionsStorage = false ∧ call ≠ .releaseSharedStorage := by
    cases call with
    | mountSharedHome => exact ⟨rfl, Call.noConfusion⟩
    | _ => cases hmounts
  have hleft : ¬ LeavesMount node calls := fun hleft => by
    simp [(h.leftBehind.mpr hleft).2] at hstorage
  constructor
  · simp [hasMounted_concat, hmounted, hmounts]
  · rw [storage_next_of_other hkept.1 hkept.2]
    simp [leavesMount_concat, hkept.2, hleft, Option.isSome_iff_ne_none.mp hstorage]

/-- Where the mount stays as it was, the storage decides. -/
theorem RecordsMount.next_of_other (h : backend.RecordsMount node calls)
    (hnew : call.provisions node = false) (hmounts : call.mounts node = false) :
    (backend.next call).RecordsMount node (calls ++ [call]) := by
  have hsame : (backend.next call).mount? node = backend.mount? node :=
    mount?_next_of_other hnew hmounts
  refine ⟨by simp [hasMounted_concat, hsame, h.mounted, hnew, hmounts], ?_⟩
  rw [leavesMount_concat, hsame]
  by_cases hrelease : call = .releaseSharedStorage
  · subst hrelease
    have hnone : (backend.next .releaseSharedStorage).storage = none := rfl
    rw [hnone, h.mounted]
    constructor
    · rintro ⟨hmounted, -⟩
      exact .inl ⟨rfl, hmounted⟩
    · rintro (⟨-, hmounted⟩ | ⟨hleft, -⟩)
      · exact ⟨hmounted, rfl⟩
      · exact ⟨h.hasMounted hleft, rfl⟩
  by_cases hstorage : call.provisionsStorage = true
  · have hsome : (backend.next call).storage.isSome = true := storage_next_of_provisionsStorage hstorage
    simp [hrelease, hstorage, Option.isSome_iff_ne_none.mp hsome]
  · have hkept : call.provisionsStorage = false := by simpa using hstorage
    rw [storage_next_of_other hkept hrelease, h.leftBehind]
    simp [hrelease, hnew, hkept]

/-- **A call that is carried out keeps state and history in step.** -/
theorem RecordsMount.next (h : backend.RecordsMount node calls)
    (hfree : backend.obstacle? call = none) :
    (backend.next call).RecordsMount node (calls ++ [call]) := by
  by_cases hnew : call.provisions node = true
  · exact RecordsMount.next_of_provisions hnew
  by_cases hmounts : call.mounts node = true
  · exact h.next_of_mounts hfree hmounts
  · exact h.next_of_other (by simpa using hnew) (by simpa using hmounts)

/-- **State and history agree on every mount**, over anything that is done to a new backend. -/
theorem recordsMount_stepAll (scenario : Scenario) (steps : List Step) (node : String) :
    (stepAll { scenario } steps).RecordsMount node (carriedOut { scenario } steps) := by
  induction steps using List.reverseRecOn with
  | nil =>
    refine ⟨by simp [HasMounted, stepAll, carriedOut, mount?, sinceProvisioned], ?_⟩
    simp [LeavesMount, stepAll, carriedOut, mount?]
  | append_singleton steps step ih =>
    rw [stepAll_concat, carriedOut_concat]
    rcases (stepAll { scenario } steps).step_cases step with
      ⟨hnone, hnodes, hstorage⟩ | ⟨call, -, hcall, hfree, hnext⟩
    · have hmount : ((stepAll { scenario } steps).step step).mount? node =
          (stepAll { scenario } steps).mount? node := by rw [mount?, hnodes, mount?]
      rw [hnone, Option.toList_none, List.append_nil]
      exact ⟨by rw [hmount, ih.mounted], by rw [hmount, hstorage, ih.leftBehind]⟩
    · rw [hcall, hnext, Option.toList_some]
      exact ih.next hfree

/-! ## Binding shared content -/

/-- Content for the shared home asks for the mount of its node and for nothing else. -/
theorem obstacle?_bindResource_sharedHome {address : NodeAddress} {binding : Binding}
    (h : binding.placement = .sharedHome) :
    backend.obstacle? (.bindResource address binding) = none ↔
      (backend.mount? address.name).isSome = true := by
  rw [obstacle?, h, unready?, unknown?, mount?]
  cases backend.nodes.get? address.name with
  | none => simp
  | some state => cases hmounted : state.mounted <;> simp [hmounted]

/-- Content for the object store asks for storage. -/
theorem storage_of_bindResource_objectStore {address : NodeAddress} {binding : Binding}
    (h : binding.placement = .objectStore)
    (hfree : backend.obstacle? (.bindResource address binding) = none) : backend.storage ≠ none := by
  intro hnone
  rw [obstacle?, h, unready?, hnone] at hfree
  cases hfree

/-- **Which binds of shared content succeed without storage**, over anything that is done to a new backend:
those that the scenario permits, for the shared home, on a node whose mount was left behind.  Content for the
object store is never among them. -/
theorem binds_without_storage_iff (scenario : Scenario) (steps : List Step) (address : NodeAddress)
    (binding : Binding) :
    let backend := stepAll { scenario } steps
    ((∃ result, backend.perform (.bindResource address binding) = .ok result) ∧
        (binding.placement = .sharedHome ∨ binding.placement = .objectStore) ∧
        backend.storage = none) ↔
      backend.scenario.permits (.bindResource address binding) = true ∧
        binding.placement = .sharedHome ∧
        LeavesMount address.name (carriedOut { scenario } steps) := by
  intro backend
  have hrecords : backend.RecordsMount address.name _ := recordsMount_stepAll scenario steps address.name
  constructor
  · rintro ⟨⟨result, hresult⟩, hshared, hstorage⟩
    obtain ⟨hpermits, hfree, -, -⟩ := perform_eq_ok_iff.mp hresult
    rcases hshared with hhome | hstore
    · have hmounted := (obstacle?_bindResource_sharedHome hhome).mp hfree
      exact ⟨hpermits, hhome, hrecords.leftBehind.mp ⟨hmounted, hstorage⟩⟩
    · exact absurd hstorage (storage_of_bindResource_objectStore hstore hfree)
  · rintro ⟨hpermits, hhome, hleft⟩
    obtain ⟨hmounted, hstorage⟩ := hrecords.leftBehind.mpr hleft
    have hfree := (obstacle?_bindResource_sharedHome hhome).mpr hmounted
    exact ⟨⟨_, perform_eq_ok_iff.mpr ⟨hpermits, hfree, rfl, rfl⟩⟩, .inl hhome, hstorage⟩

/-- A mount is left behind, and avatars are bound on a shared home that is gone. -/
theorem binds_without_storage_after_release :
    let address : NodeAddress := ⟨"dc-0", "10.0.0.10"⟩
    let binding : Binding := ⟨.avatars, .sharedHome, "/opt/jira-shared-home/data/avatars"⟩
    let backend := stepAll {}
      [.call (.provisionSharedStorage Dataset.formatEight (.ofConfig {})),
       .call (.provisionNode ⟨0, "dc-0"⟩),
       .call (.mountSharedHome address ⟨"10.0.0.4", "/opt/jira-shared-home"⟩),
       .call .releaseSharedStorage]
    (∃ result, backend.perform (.bindResource address binding) = .ok result) ∧
      backend.storage = none ∧
      ¬∀ (scenario : Scenario) (steps : List Step) (address : NodeAddress) (binding : Binding),
        (∃ result, (stepAll { scenario } steps).perform (.bindResource address binding) = .ok result) →
          binding.placement = .sharedHome ∨ binding.placement = .objectStore →
            (stepAll { scenario } steps).storage.isSome = true := by
  intro address binding backend
  have hbound : ∃ result, backend.perform (.bindResource address binding) = .ok result := ⟨_, rfl⟩
  refine ⟨hbound, rfl, fun hall => ?_⟩
  cases hall {} _ address binding hbound (.inl rfl)

end Backend

end DatasetHosting
