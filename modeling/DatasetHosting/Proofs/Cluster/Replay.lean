import DatasetHosting.Proofs.Cluster.Discipline

/-!
# Proofs/Cluster/Replay — a log that is enough

Whoever has the log of a backend, and nothing else, knows what can be observed of its state
(`Backend.replay_events`).  For a node that was provisioned once there is a shorter way: all its bindings in
the log are its bindings, as nothing was bound on it before.
-/

namespace DatasetHosting

namespace EventLog

variable {log since : EventLog} {event : Event} {name : String}

/-- **What stands behind the last provisioning of a node** is told by the place where it was. -/
theorem exists_of_since? (h : log.since? name = some since) :
    ∃ earlier ip, log = earlier ++ .nodeProvisioned name ip :: since ∧
      since.countP (Event.provisions name) = 0 := by
  induction log using List.reverseRecOn generalizing since with
  | nil => cases h
  | append_singleton log event ih =>
    rw [since?_concat] at h
    split at h
    · next hnew =>
      obtain rfl := Option.some.inj h
      obtain ⟨ip, rfl⟩ := Event.provisions_iff.mp hnew
      exact ⟨log, ip, rfl, rfl⟩
    · next hold =>
      obtain ⟨shorter, hshorter, rfl⟩ := Option.map_eq_some_iff.mp h
      obtain ⟨earlier, ip, rfl, hnone⟩ := ih hshorter
      exact ⟨earlier, ip, by simp, by simp [List.countP_append, hnone, hold]⟩

/-- The resources bound on a node are those of the bindings made on it. -/
theorem boundResources_eq (log : EventLog) (name : String) :
    log.boundResources name = (log.filterMap (Event.bindingOn? name)).map (·.resource) := by
  rw [boundResources, List.map_filterMap]
  congr 1
  funext event
  cases event with
  | resourceBound node binding => by_cases h : node = name <;> simp [Event.boundOn?, Event.bindingOn?, h]
  | _ => rfl

/-- **In a log in order nothing is bound on a node that was never provisioned.** -/
theorem IsOrdered.boundResources_eq_nil (h : log.IsOrdered) (hnone : ¬ log.Provisions name) :
    log.boundResources name = [] := by
  rw [boundResources, List.filterMap_eq_nil_iff]
  intro event hevent
  cases event with
  | resourceBound node binding =>
    by_cases hnode : node = name
    · obtain ⟨before, behind, rfl⟩ := List.append_of_mem hevent
      obtain ⟨⟨ip, hip⟩, -⟩ := h before _ behind rfl
      exact absurd ⟨ip, List.mem_append_left _ (hnode ▸ hip)⟩ hnone
    · simp [Event.boundOn?, hnode]
  | _ => rfl

/-- **Of a node provisioned once** the whole log tells the bindings. -/
theorem IsOrdered.boundResources_of_once (h : log.IsOrdered) (hsince : log.since? name = some since)
    (honce : log.countP (Event.provisions name) = 1) :
    log.boundResources name = (since.view name).bindings.map (·.resource) := by
  obtain ⟨earlier, ip, rfl, hnone⟩ := exists_of_since? hsince
  have hearlier : earlier.countP (Event.provisions name) = 0 := by
    simpa [List.countP_append, List.countP_cons, Event.provisions, hnone] using honce
  have hnew : ¬ Provisions earlier name := by
    rintro ⟨ip', hip⟩
    exact List.countP_eq_zero.mp hearlier _ hip (Event.provisions_iff.mpr ⟨ip', rfl⟩)
  have hordered : IsOrdered earlier := h.of_append
  have hsplit : boundResources (earlier ++ .nodeProvisioned name ip :: since) name =
      boundResources earlier name ++ boundResources since name := by
    simp only [boundResources, List.filterMap_append]
    rw [List.filterMap_cons_none rfl]
  rw [hsplit, hordered.boundResources_eq_nil hnew, List.nil_append, boundResources_eq, view]

end EventLog

namespace Backend

/-- **Replaying the log alone reconstructs what can be observed**, over any calls on a new backend and
whatever fails: each node by what was logged since it was last provisioned, and the storage by the last event
about it.  The known nodes are those provisioned in the log; and the resources bound in the log on a node that
was provisioned once are those of its bindings. -/
theorem replay_events (scenario : Scenario) (calls : List Call) :
    let backend := performAll { scenario } calls
    backend.observation = backend.events.replay ∧
      (∀ name, name ∈ backend.nodes.names ↔ ∃ ip, .nodeProvisioned name ip ∈ backend.events) ∧
      ∀ name, backend.events.countP (Event.provisions name) = 1 →
        ∃ state, backend.nodes.get? name = some state ∧
          backend.events.boundResources name = state.bindings.map (·.resource) := by
  intro backend
  have hmatches : backend.MatchesLog := matchesLog_performAll scenario calls
  have hordered : backend.events.IsOrdered := isOrdered_performAll scenario calls
  refine ⟨hmatches, fun name => Register.mem_names_iff.trans hmatches.isSome_get?_iff, ?_⟩
  intro name honce
  have hsome : (backend.events.since? name).isSome = true := by
    rw [EventLog.isSome_since?, List.any_eq_true, ← List.countP_pos_iff, honce]
    exact Nat.one_pos
  obtain ⟨since, hsince⟩ := Option.isSome_iff_exists.mp hsome
  have hnode := hmatches.node name
  rw [hsince, Option.map_some, Option.map_eq_some_iff] at hnode
  obtain ⟨state, hstate, hview⟩ := hnode
  refine ⟨state, hstate, ?_⟩
  rw [hordered.boundResources_of_once hsince honce, ← hview, NodeState.view]

/-- What is asked of an unknown node is logged and leaves nothing behind; the node provisioned once has its
one binding, and the log tells it. -/
theorem replay_events_provisioned_once :
    let home : SharedHome := ⟨"10.0.0.4", "/opt/jira-shared-home"⟩
    let binding : Binding := ⟨.avatars, .sharedHome, "/opt/jira-shared-home/data/avatars"⟩
    let backend := performAll {}
      [.bindResource ⟨"dc-1", "10.0.0.11"⟩ binding,
       .provisionSharedStorage Dataset.formatEight (.ofConfig {}), .provisionNode ⟨0, "dc-0"⟩,
       .mountSharedHome ⟨"dc-0", "10.0.0.10"⟩ home, .bindResource ⟨"dc-0", "10.0.0.10"⟩ binding]
    backend.events.countP (Event.provisions "dc-0") = 1 ∧
      ∃ state, backend.nodes.get? "dc-0" = some state ∧
        backend.events.boundResources "dc-0" = state.bindings.map (·.resource) ∧
        backend.events.boundResources "dc-0" = [.avatars] := by
  intro home binding backend
  have honce : backend.events.countP (Event.provisions "dc-0") = 1 := by decide +kernel
  have hbound : backend.events.boundResources "dc-0" = [.avatars] := by decide +kernel
  obtain ⟨-, -, hreplay⟩ := replay_events _ _
  obtain ⟨state, hstate, hsame⟩ := hreplay "dc-0" honce
  exact ⟨honce, state, hstate, hsame, hbound⟩

end Backend

end DatasetHosting
