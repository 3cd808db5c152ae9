import DatasetHosting.Dataset.WellKnown
import DatasetHosting.Proofs.Cluster.DataCenter

/-!
# Proofs/Cluster/FailedDataCenter — a data center that fails is undone

A run that fails was refused and left everything as it was, or failed at the first step that fails and
with the cause that this step gives (`FailsBehind`).  Whatever was built by then is released, and no failure
to release replaces the cause.
-/

namespace DatasetHosting

/-- **The failures of a build.**  No order of calls and no release is to blame for them. -/
def Failure.IsOfBuild : Failure → Prop
  | formula (.missingObjectStore _) => True
  | backend (.injected operation _) =>
    operation ≠ .releaseNode ∧ operation ≠ .releaseSharedStorage
  | _ => False

/-- **The steps fail behind those done**: the next one gives the cause, and what was done is undone. -/
structure FailsBehind (backend : Backend) (steps done : List BuildStep) (cause : Failure)
    (final : Backend) : Prop where
  /-- The next step gives the cause. -/
  cause_eq : ∃ step rest, steps = done ++ step :: rest ∧
    step.failure? backend.scenario = some cause
  /-- The steps done do not fail. -/
  succeeded : ∀ step ∈ done, step.failure? backend.scenario = none
  /-- Without the storage nothing was done. -/
  untouched : done = [] → final = backend
  /-- With it, what the calls did is rolled back. -/
  undone : done ≠ [] → ∃ built,
    backend.carryOut (done.filterMap BuildStep.call?) = .ok built ∧
      RolledBack built (allocatedIn (done.filterMap BuildStep.call?)) final

namespace Formula

variable {dataset : Dataset} {nodes : UInt64} {config : StorageConfig} {minFormat : Option UInt32}
  {session final : Session} {cause : Failure}

/-! ## The causes -/

/-- No call of a build releases anything. -/
theorem isOfBuild_of_mem_buildCalls {backend : Backend} {bindings : List Binding} {call : Call}
    (h : call ∈ buildCalls backend dataset nodes config bindings) :
    (Failure.backend (.injected call.operation call.target)).IsOfBuild := by
  obtain ⟨i, -, hcall⟩ := List.mem_flatMap.mp h
  have hbuild : ∀ call ∈ nodeCalls (setupOf backend dataset config bindings) (.ofNat i),
      call.operation ≠ .releaseNode ∧ call.operation ≠ .releaseSharedStorage :=
    List.forall_mem_cons.mpr ⟨⟨by rintro ⟨⟩, by rintro ⟨⟩⟩, forall_mem_configureCalls
      ⟨by rintro ⟨⟩, by rintro ⟨⟩⟩ (fun _ => ⟨by rintro ⟨⟩, by rintro ⟨⟩⟩)
      fun _ => ⟨by rintro ⟨⟩, by rintro ⟨⟩⟩⟩
  exact hbuild call hcall

theorem failure?_call_of_permits {scenario : Scenario} {call : Call}
    (h : scenario.permits call = true) : (BuildStep.call call).failure? scenario = none :=
  if_pos h

theorem failure?_call_of_not_permits {scenario : Scenario} {call : Call}
    (h : scenario.permits call = false) :
    (BuildStep.call call).failure? scenario =
      some (.backend (.injected call.operation call.target)) := by
  rw [BuildStep.failure?, h]
  rfl

/-! ## Failing at each of the steps -/

section Steps

variable {backend : Backend} {entered built : Backend} {bindings : List Binding}

/-- Without the storage there is nothing to undo. -/
theorem failsBehind_storage {error : BackendError}
    (h : backend.perform (storageCall dataset config) = .error error) (nodes : UInt64) :
    (Failure.backend error).IsOfBuild ∧
      FailsBehind backend (buildSteps backend dataset nodes config) [] (.backend error) backend := by
  obtain ⟨hp, rfl⟩ : backend.scenario.permits (storageCall dataset config) = false ∧
      error = .injected .provisionSharedStorage dataset.id := by
    rcases Backend.perform_eq_error_iff.mp h with ⟨hp, he⟩ | ⟨-, ho⟩
    · exact ⟨hp, he⟩
    · cases ho
  refine ⟨⟨by rintro ⟨⟩, by rintro ⟨⟩⟩, ?_, fun _ hstep => absurd hstep List.not_mem_nil, fun _ => rfl,
    fun h => absurd rfl h⟩
  exact ⟨_, _, rfl, failure?_call_of_not_permits hp⟩

/-- Without the bindings only the storage is released. -/
theorem failsBehind_bindings {error : MissingObjectStore}
    (hentered : backend.carryOut [storageCall dataset config] = .ok entered)
    (h : (Plan.ofConfig config).bindings (storageOf backend dataset config) = .error error)
    (nodes : UInt64) :
    FailsBehind backend (buildSteps backend dataset nodes config)
      [.call (storageCall dataset config)] (.formula (.missingObjectStore error))
      (entered.performAll (releaseCalls [])) := by
  obtain ⟨hpermits, -, -⟩ := Backend.carryOut_eq_ok_iff.mp hentered
  have hfirst := failure?_call_of_permits (hpermits _ List.mem_cons_self)
  refine ⟨⟨.bind (.error error), [], buildSteps_of_error h, rfl⟩, ?_,
    fun hnil => absurd hnil (List.cons_ne_nil _ _), fun _ => ⟨entered, hentered, ?_⟩⟩
  · intro step hstep
    obtain rfl := List.mem_singleton.mp hstep
    exact hfirst
  · exact rolledBack_performAll fun _ haddress => absurd haddress List.not_mem_nil

/-- While nodes are built, those allocated are released and then the storage. -/
theorem failsBehind_calls {done rest : List Call} {call : Call} {error : BackendError}
    (h : (Plan.ofConfig config).bindings (storageOf backend dataset config) = .ok bindings)
    (hcalls : buildCalls backend dataset nodes config bindings = done ++ call :: rest)
    (hdone : backend.carryOut (storageCall dataset config :: done) = .ok built)
    (hcall : built.perform call = .error error) :
    (Failure.backend error).IsOfBuild ∧
      FailsBehind backend (buildSteps backend dataset nodes config)
        (.call (storageCall dataset config) :: .bind (.ok bindings) :: done.map .call)
        (.backend error) (built.performAll (releaseCalls (allocatedIn done))) := by
  obtain ⟨hpermits, -, hbuilt⟩ := Backend.carryOut_eq_ok_iff.mp hdone
  have hfree := unobstructed_calls h nodes
  rw [hcalls] at hfree
  obtain ⟨hp, rfl⟩ := Backend.error_of_unobstructed hfree hdone hcall
  have hmem : call ∈ buildCalls backend dataset nodes config bindings :=
    hcalls ▸ List.mem_append_right _ List.mem_cons_self
  have hknown : ∀ address ∈ allocatedIn (storageCall dataset config :: done),
      (built.nodes.get? address.name).isSome = true :=
    fun address haddress => hbuilt ▸ Backend.isSome_get?_of_allocated haddress
  have hmade : ((.call (storageCall dataset config) :: .bind (.ok bindings) ::
      done.map .call : List BuildStep).filterMap BuildStep.call?) =
      storageCall dataset config :: done :=
    congrArg (storageCall dataset config :: ·) (BuildStep.filterMap_call?_map_call done)
  refine ⟨isOfBuild_of_mem_buildCalls hmem, ⟨.call call, rest.map .call, ?_, ?_⟩, ?_,
    fun hnil => absurd hnil (List.cons_ne_nil _ _), fun _ => ⟨built, ?_, ?_⟩⟩
  · rw [buildSteps_of_ok h, hcalls, List.map_append]
    rfl
  · exact failure?_call_of_not_permits hp
  · intro step hstep
    rcases List.mem_cons.mp hstep with rfl | hstep
    · exact failure?_call_of_permits (hpermits _ List.mem_cons_self)
    · rcases List.mem_cons.mp hstep with rfl | hstep
      · rfl
      · obtain ⟨earlier, hearlier, rfl⟩ := List.mem_map.mp hstep
        exact failure?_call_of_permits (hpermits earlier (List.mem_cons_of_mem _ hearlier))
  · rw [hmade, hdone]
  · rw [hmade]
    exact rolledBack_performAll hknown

/-- **A run that ends in a failure** fails behind some of its steps. -/
theorem failsBehind_of_ends {after : Backend}
    (h : Ends backend dataset nodes config (.error cause) after) :
    cause.IsOfBuild ∧
      ∃ done, FailsBehind backend (buildSteps backend dataset nodes config) done cause after := by
  cases h with
  | unprovisioned hstorage =>
    obtain ⟨hcause, hfails⟩ := failsBehind_storage hstorage nodes
    exact ⟨hcause, _, hfails⟩
  | unbound _ hentered hbindings =>
    exact ⟨trivial, _, failsBehind_bindings hentered hbindings nodes⟩
  | stopped _ hbindings hcalls hdone hcall =>
    obtain ⟨hcause, hfails⟩ := failsBehind_calls hbindings hcalls hdone hcall
    exact ⟨hcause, _, hfails⟩

end Steps

/-- **A data center that fails is undone.** -/
theorem provision_dataCenter_error
    (h : (Formula.mk dataset (.dataCenter nodes config minFormat)).provision session =
      (.error cause, final)) :
    (∃ error, refusal? dataset nodes minFormat = some error ∧ cause = .formula error ∧
      final = session) ∨
    (refusal? dataset nodes minFormat = none ∧ cause.IsOfBuild ∧
      ∃ done, FailsBehind session.backend (buildSteps session.backend dataset nodes config) done
        cause final.backend) := by
  change provisionDataCenter dataset nodes config minFormat session = _ at h
  cases hrefusal : refusal? dataset nodes minFormat with
  | some error =>
    rw [provisionDataCenter_of_refusal hrefusal] at h
    obtain ⟨hcause, rfl⟩ := Prod.mk.inj h
    exact .inl ⟨error, rfl, (Ending.error.inj hcause).symm, rfl⟩
  | none =>
    have hends := provisionDataCenter_ends hrefusal config session
    rw [h] at hends
    exact .inr ⟨rfl, failsBehind_of_ends hends⟩

/-- A node that cannot mount the shared home fails the run, though no node can be released either. -/
theorem provision_formatEight_without_mount :
    let backend : Backend :=
      { scenario := { failures := [(.mountSharedHome, some "dc-0"), (.releaseNode, none)] } }
    let run := (Formula.mk Dataset.formatEight (.dataCenter 2 {} none)).provision ⟨backend, []⟩
    let cause : Failure := .backend (.injected .mountSharedHome "dc-0")
    run = (.error cause, run.2) ∧ cause.IsOfBuild ∧
      ∃ done, FailsBehind backend (buildSteps backend Dataset.formatEight 2 {}) done cause
        run.2.backend := by
  intro backend run cause
  have hrun : run = (.error cause, run.2) := rfl
  have hrefusal : refusal? Dataset.formatEight 2 none = none := rfl
  rcases provision_dataCenter_error hrun with ⟨error, hrefused, -⟩ | ⟨-, hcause, hdone⟩
  · cases hrefusal.symm.trans hrefused
  · exact ⟨hrun, hcause, hdone⟩

end Formula

end DatasetHosting
