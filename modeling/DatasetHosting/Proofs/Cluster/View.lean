import DatasetHosting.Proofs.Cluster.Sequence

/-!
# Proofs/Cluster/View — one node, and the storage, through a sequence of calls

A call is about one node or about the storage (`Call.node?`).  What is known of a node afterwards is what
the calls about it make of it, in order (`Backend.nextAll_get?`); all other calls pass it by.  The storage
changes by the calls about no node only (`Backend.nextAll_storage`).
-/

namespace DatasetHosting

/-! ## What a call is about -/

/-- The node that a call is about, none for the storage. -/
def Call.node? : Call → Option String
  | provisionSharedStorage .. => none
  | provisionNode spec => some spec.name
  | mountSharedHome node _ => some node.name
  | bindResource node _ => some node.name
  | writeNodeFile node _ => some node.name
  | nodeStatus node => some node.name
  | releaseNode node => some node.name
  | releaseSharedStorage => none

/-- **What a call makes of what is known of its node.** -/
def Call.onNode (call : Call) (known : Option NodeState) : Option NodeState :=
  match call with
  | provisionNode _ => some {}
  | mountSharedHome _ home => known.map fun state => { state with mounted := some home }
  | bindResource _ binding =>
    known.map fun state => { state with bindings := state.bindings ++ [binding] }
  | writeNodeFile _ file =>
    known.map fun state =>
      { state with
        files := state.files.set file.name (Backend.fileAfter (state.files.get? file.name) file) }
  | releaseNode _ => known.map fun state => { state with released := true }
  | _ => known

/-- …and what calls make of it, one after the other. -/
def onNodeAll (calls : List Call) (known : Option NodeState) : Option NodeState :=
  calls.foldl (fun known call => call.onNode known) known

@[simp] theorem onNodeAll_cons (call : Call) (rest : List Call) (known : Option NodeState) :
    onNodeAll (call :: rest) known = onNodeAll rest (call.onNode known) := rfl

/-- A node goes through calls one after another. -/
theorem onNodeAll_append (calls rest : List Call) (known : Option NodeState) :
    onNodeAll (calls ++ rest) known = onNodeAll rest (onNodeAll calls known) :=
  List.foldl_append

theorem Call.isSome_onNode {call : Call} {known : Option NodeState} (h : known.isSome = true) :
    (call.onNode known).isSome = true := by
  cases call with
  | provisionNode => rfl
  | _ => simpa [onNode] using h

namespace Backend

variable {backend : Backend} {call : Call} {calls : List Call} {name : String}

/-! ## The view of one node -/

/-- A call changes its own node as `Call.onNode` says. -/
theorem next_get?_self (h : call.node? = some name) :
    (backend.next call).nodes.get? name = call.onNode (backend.nodes.get? name) := by
  cases call with
  | provisionNode spec =>
    obtain rfl := Option.some.inj h
    exact Register.get?_set_self _ _ _
  | mountSharedHome | bindResource | writeNodeFile | releaseNode =>
    obtain rfl := Option.some.inj h
    exact modifyNode_get?_self
  | nodeStatus => rfl
  | provisionSharedStorage | releaseSharedStorage => cases h

/-- It leaves every other node as it is. -/
theorem next_get?_of_ne (h : call.node? ≠ some name) :
    (backend.next call).nodes.get? name = backend.nodes.get? name := by
  have hne : ∀ other, call.node? = some other → name ≠ other := by
    rintro other ho rfl
    exact h ho
  cases call with
  | provisionNode spec => exact Register.get?_set_of_ne _ _ (hne _ rfl)
  | mountSharedHome | bindResource | writeNodeFile | releaseNode =>
    exact modifyNode_get?_of_ne (hne _ rfl)
  | nodeStatus | provisionSharedStorage | releaseSharedStorage => rfl

/-- **A node is what the calls about it make of it.** -/
theorem nextAll_get? (backend : Backend) (calls : List Call) (name : String) :
    (backend.nextAll calls).nodes.get? name =
      onNodeAll (calls.filter fun call => call.node? = some name) (backend.nodes.get? name) := by
  induction calls generalizing backend with
  | nil => rfl
  | cons call rest ih =>
    rw [nextAll_cons, ih]
    by_cases h : call.node? = some name
    · rw [List.filter_cons, if_pos (decide_eq_true h), next_get?_self h]
      rfl
    · rw [List.filter_cons, if_neg (by simpa using h), next_get?_of_ne h]

/-- Calls about other things pass a node by. -/
theorem nextAll_get?_of_forall_ne (h : ∀ call ∈ calls, call.node? ≠ some name) :
    (backend.nextAll calls).nodes.get? name = backend.nodes.get? name := by
  have hnone : (calls.filter fun call => call.node? = some name) = [] :=
    List.filter_eq_nil_iff.mpr fun call hc => by simpa using h call hc
  rw [nextAll_get?, hnone]
  rfl

theorem nextAll_get?_of_forall_eq (h : ∀ call ∈ calls, call.node? = some name) :
    (backend.nextAll calls).nodes.get? name = onNodeAll calls (backend.nodes.get? name) := by
  have hall : (calls.filter fun call => call.node? = some name) = calls :=
    List.filter_eq_self.mpr fun call hc => decide_eq_true (h call hc)
  rw [nextAll_get?, hall]

/-- A node that is known stays known. -/
theorem isSome_get?_nextAll (h : (backend.nodes.get? name).isSome = true) :
    ((backend.nextAll calls).nodes.get? name).isSome = true := by
  induction calls generalizing backend with
  | nil => exact h
  | cons call rest ih =>
    refine ih ?_
    by_cases hn : call.node? = some name
    · rw [next_get?_self hn]
      exact Call.isSome_onNode h
    · rw [next_get?_of_ne hn]
      exact h

/-! ## The storage -/

/-- Calls on a node leave the storage as it is. -/
theorem next_storage_of_node (h : call.node? = some name) :
    (backend.next call).storage = backend.storage := by
  cases call with
  | provisionSharedStorage | releaseSharedStorage => cases h
  | mountSharedHome | bindResource | writeNodeFile | releaseNode => exact modifyNode_storage
  | provisionNode | nodeStatus => rfl

/-- **Calls about nodes leave the storage alone.** -/
theorem nextAll_storage (h : ∀ call ∈ calls, call.node?.isSome = true) :
    (backend.nextAll calls).storage = backend.storage := by
  induction calls generalizing backend with
  | nil => rfl
  | cons call rest ih =>
    obtain ⟨name, hname⟩ := Option.isSome_iff_exists.mp (h call List.mem_cons_self)
    rw [nextAll_cons, ih fun later hl => h later (List.mem_cons_of_mem _ hl),
      next_storage_of_node hname]

end Backend

end DatasetHosting
