import Mathlib.Data.List.DropRight
import Mathlib.Data.List.Induction
import DatasetHosting.Proofs.Cluster.History

/-!
# Proofs/Cluster/FileHistory — what a file holds

A file on a node holds what was written to it since the node was last provisioned: the last text that replaced
its contents, if there is one, and all that was appended behind it (`showing`).  A history tells this by the calls
that succeeded in it, and the backend has it in its state; writing keeps the two the same
(`contentsOf?_concat`), and nothing else touches a file but provisioning its node anew
(`Backend.file?_next`).
-/

namespace DatasetHosting

variable {node file : String} {call : Call} {calls : List Call} {writes : List NodeFile}
  {written : NodeFile}

/-! ## The writes in a history -/

namespace Call

/-- Whether the call provisions the node. -/
def provisions (node : String) : Call → Bool
  | provisionNode spec => spec.name == node
  | _ => false

/-- What the call writes to the file on the node. -/
def writeTo? (node file : String) : Call → Option NodeFile
  | writeNodeFile address written =>
    if address.name = node ∧ written.name = file then some written else none
  | _ => none

end Call

/-- The calls since the node was last provisioned, all of them if it never was. -/
def sinceProvisioned (node : String) (calls : List Call) : List Call :=
  calls.rtakeWhile (!·.provisions node)

/-- **The writes to a file since its node was last provisioned**, in order. -/
def writesTo (node file : String) (calls : List Call) : List NodeFile :=
  (sinceProvisioned node calls).filterMap (Call.writeTo? node file)

theorem writesTo_concat :
    writesTo node file (calls ++ [call]) =
      if call.provisions node then []
      else writesTo node file calls ++ (call.writeTo? node file).toList := by
  rw [writesTo, sinceProvisioned]
  by_cases h : call.provisions node = true
  · rw [List.rtakeWhile_concat_neg _ _ _ (by simp [h]), if_pos h, List.filterMap_nil]
  · rw [List.rtakeWhile_concat_pos _ _ _ (by simp [h]), if_neg h, List.filterMap_append, writesTo,
      sinceProvisioned]
    cases hwrite : call.writeTo? node file <;> simp [hwrite]

/-! ## The writes that show -/

/-- **The writes that show in a file**: from the last one on that replaces its contents, all of them if none
does. -/
def showing (writes : List NodeFile) : List NodeFile :=
  (writes.rdropWhile (·.append)).getLast?.toList ++ writes.rtakeWhile (·.append)

theorem showing_concat :
    showing (writes ++ [written]) =
      if written.append then showing writes ++ [written] else [written] := by
  rw [showing]
  by_cases h : written.append = true
  · rw [List.rtakeWhile_concat_pos _ _ _ h, List.rdropWhile_concat_pos _ _ _ h, if_pos h, showing,
      List.append_assoc]
  · rw [List.rtakeWhile_concat_neg _ _ _ h, List.rdropWhile_concat_neg _ _ _ h, if_neg h,
      List.getLast?_concat]
    rfl

/-- Texts that are only appended all show. -/
theorem showing_of_forall_append (h : ∀ written ∈ writes, written.append = true) :
    showing writes = writes := by
  induction writes using List.reverseRecOn with
  | nil => rfl
  | append_singleton writes last ih =>
    obtain ⟨hwrites, hlast⟩ := List.forall_mem_append.mp h
    rw [showing_concat, if_pos (hlast last List.mem_cons_self), ih hwrites]

/-- **Nothing in front of the last text that replaces the others shows.** -/
theorem showing_append_cons {earlier later : List NodeFile} (hreplaces : written.append = false)
    (h : ∀ behind ∈ later, behind.append = true) :
    showing (earlier ++ written :: later) = written :: later := by
  induction later using List.reverseRecOn with
  | nil => rw [showing_concat, if_neg (by simp [hreplaces])]
  | append_singleton later last ih =>
    obtain ⟨hlater, hlast⟩ := List.forall_mem_append.mp h
    have hfront : earlier ++ written :: (later ++ [last]) = (earlier ++ written :: later) ++ [last] := by
      simp
    rw [hfront, showing_concat, if_pos (hlast last List.mem_cons_self), ih hlater]
    rfl

/-- **What a file holds** after writes, nothing without any. -/
def contentsOf? (writes : List NodeFile) : Option String :=
  if writes = [] then none else some (String.join ((showing writes).map (·.contents)))

theorem getD_contentsOf? (writes : List NodeFile) :
    (contentsOf? writes).getD "" = String.join ((showing writes).map (·.contents)) := by
  rw [contentsOf?]
  by_cases h : writes = []
  · rw [if_pos h, h]
    rfl
  · rw [if_neg h]
    rfl

/-- **One more write makes of the contents what it makes of the file.** -/
theorem contentsOf?_concat :
    contentsOf? (writes ++ [written]) = some (Backend.fileAfter (contentsOf? writes) written) := by
  rw [contentsOf?, if_neg (by simp), showing_concat, Backend.fileAfter, getD_contentsOf?]
  cases written.append with
  | true => simp [String.join_append]
  | false => simp

/-! ## The file in the state -/

namespace Backend

variable {backend : Backend}

/-- The contents of a file on a node, if there is such a node with such a file. -/
def file? (backend : Backend) (node file : String) : Option String :=
  (backend.nodes.get? node).bind (·.files.get? file)

/-- A node that is provisioned has no files. -/
theorem file?_next_of_provisions (h : call.provisions node = true) :
    (backend.next call).file? node file = none := by
  cases call with
  | provisionNode spec =>
    have hnode : (Call.provisionNode spec).node? = some node := congrArg some (beq_iff_eq.mp h)
    rw [file?, next_get?_self hnode]
    rfl
  | _ => cases h

/-- A write that is carried out changes its file. -/
theorem file?_next_of_write (hfree : backend.obstacle? call = none)
    (h : call.writeTo? node file = some written) :
    (backend.next call).file? node file = some (fileAfter (backend.file? node file) written) := by
  cases call with
  | writeNodeFile address other =>
    obtain ⟨⟨rfl, rfl⟩, hsame⟩ := Option.ite_none_right_eq_some.mp h
    obtain rfl := Option.some.inj hsame
    rw [file?, next_get?_self rfl, file?]
    cases hstate : backend.nodes.get? address.name with
    | none =>
      rw [obstacle?, unknown?, hstate] at hfree
      cases hfree
    | some state => exact Register.get?_set_self _ _ _
  | _ => cases h

/-- **Nothing else touches a file.** -/
theorem file?_next_of_other (hnew : call.provisions node = false)
    (hwrite : call.writeTo? node file = none) :
    (backend.next call).file? node file = backend.file? node file := by
  by_cases hnode : call.node? = some node
  · rw [file?, next_get?_self hnode, file?]
    cases call with
    | provisionNode spec =>
      obtain rfl := Option.some.inj hnode
      simp [Call.provisions] at hnew
    | writeNodeFile address other =>
      obtain rfl := Option.some.inj hnode
      have hother : file ≠ other.name := by
        rintro rfl
        simp [Call.writeTo?] at hwrite
      cases backend.nodes.get? address.name with
      | none => rfl
      | some state => exact Register.get?_set_of_ne _ _ hother
    | _ => cases backend.nodes.get? node <;> rfl
  · rw [file?, next_get?_of_ne hnode, file?]

/-! ## Whole histories -/

/-- A call that is carried out keeps history and state in step. -/
theorem file?_next (hfree : backend.obstacle? call = none)
    (h : backend.file? node file = contentsOf? (writesTo node file calls)) :
    (backend.next call).file? node file = contentsOf? (writesTo node file (calls ++ [call])) := by
  rw [writesTo_concat]
  by_cases hnew : call.provisions node = true
  · rw [if_pos hnew, file?_next_of_provisions hnew]
    rfl
  · rw [if_neg hnew]
    cases hwrite : call.writeTo? node file with
    | none =>
      rw [Option.toList_none, List.append_nil, file?_next_of_other (by simpa using hnew) hwrite, h]
    | some written => rw [Option.toList_some, contentsOf?_concat, file?_next_of_write hfree hwrite, h]

/-- **A file holds what its history says**, on a backend that was new. -/
theorem file?_stepAll (scenario : Scenario) (steps : List Step) (node file : String) :
    (stepAll { scenario } steps).file? node file =
      contentsOf? (writesTo node file (carriedOut { scenario } steps)) := by
  induction steps using List.reverseRecOn with
  | nil => rfl
  | append_singleton steps step ih =>
    rw [stepAll_concat, carriedOut_concat]
    rcases (stepAll { scenario } steps).step_cases step with ⟨hnone, hnodes, -⟩ | ⟨call, -, hcall, hfree, hnext⟩
    · rw [hnone, Option.toList_none, List.append_nil, ← ih, file?, hnodes, file?]
    · rw [hcall, hnext, Option.toList_some, file?_next hfree ih]

/-- Writes to other nodes, and to other files of the node, do not touch a file. -/
theorem file?_after_writeNodeFile {address : NodeAddress}
    (h : address.name ≠ node ∨ written.name ≠ file) (backend : Backend) :
    (backend.after (.writeNodeFile address written)).file? node file = backend.file? node file := by
  rcases backend.after_cases (.writeNodeFile address written) with hsame | ⟨-, hnext⟩
  · rw [hsame]
  · have hother : (Call.writeNodeFile address written).writeTo? node file = none :=
      if_neg fun hboth => h.elim (· hboth.1) (· hboth.2)
    rw [hnext, file?_next_of_other rfl hother]

/-- **Files follow the history of writes**, over anything that is done to a new backend and whatever fails.  A
file is there exactly if a write to it has succeeded since its node was last provisioned.  It holds the texts of
these writes, one behind the other: from the last on that replaces the contents, and from the first on if none
does.  Writes to other files or nodes never touch it. -/
theorem files_follow_writes (scenario : Scenario) (steps : List Step) (node file : String) :
    let backend := stepAll { scenario } steps
    let writes := writesTo node file (carriedOut { scenario } steps)
    ((backend.file? node file).isSome = true ↔ writes ≠ []) ∧
    (writes ≠ [] →
      backend.file? node file = some (String.join ((showing writes).map (·.contents)))) ∧
    ((∀ written ∈ writes, written.append = true) → showing writes = writes) ∧
    (∀ earlier written later, writes = earlier ++ written :: later → written.append = false →
      (∀ behind ∈ later, behind.append = true) → showing writes = written :: later) ∧
    ∀ (address : NodeAddress) (written : NodeFile), address.name ≠ node ∨ written.name ≠ file →
      (backend.after (.writeNodeFile address written)).file? node file = backend.file? node file := by
  intro backend writes
  have hfile : backend.file? node file = contentsOf? writes := file?_stepAll scenario steps node file
  refine ⟨?present, ?contents, showing_of_forall_append, ?replaced,
    fun address written hother => file?_after_writeNodeFile hother backend⟩
  case present =>
    rw [hfile, contentsOf?]
    by_cases hwrites : writes = [] <;> simp [hwrites]
  case contents =>
    intro hwrites
    rw [hfile, contentsOf?, if_neg hwrites]
  case replaced =>
    intro earlier written later hsplit hreplaces hlater
    rw [hsplit]
    exact showing_append_cons hreplaces hlater

/-- A write that fails, and one before the node was provisioned again, leave nothing in the file. -/
example :
    let node : NodeAddress := ⟨"dc-1", "10.0.0.11"⟩
    let write (contents : String) (append : Bool) : Step :=
      .call (.writeNodeFile node ⟨"setenv.sh", contents, append⟩)
    (stepAll {} [.call (.provisionNode ⟨1, "dc-1"⟩), write "lost" true,
      .call (.provisionNode ⟨1, "dc-1"⟩), write "first" true, write "second" false,
      .changeScenario (·.failOn .writeNodeFile none), write "failed" false,
      .changeScenario fun _ => {}, write "third" true]).file? "dc-1" "setenv.sh" =
      some "secondthird" := by
  decide +kernel

end Backend

end DatasetHosting
