import DatasetHosting.Proofs.Cluster.View

/-!
# Proofs/Cluster/History — whatever is done to a backend

A backend is called, and calls may fail; between calls its scenario may change and its log may be cleared.
Any of these is a `Step`.  Only a call that succeeds does anything to nodes and storage, and then it does what
`Backend.next` says (`Backend.step_cases`), so the calls that succeed, in order, are all that counts
(`Backend.carriedOut`).
-/

namespace DatasetHosting

/-- One thing that is done to a backend. -/
inductive Step where
  /-- It is called, whether the call succeeds or not. -/
  | call (call : Call)
  /-- Its scenario changes. -/
  | changeScenario (change : Scenario → Scenario)
  /-- Its log is cleared. -/
  | clearEvents

namespace Backend

/-- The backend after a step. -/
def step (backend : Backend) : Step → Backend
  | .call call => backend.after call
  | .changeScenario change => backend.changeScenario change
  | .clearEvents => backend.clearEvents

/-- The backend after steps, one after the other. -/
def stepAll (backend : Backend) (steps : List Step) : Backend :=
  steps.foldl step backend

/-- The call that succeeds in a step, if one does. -/
def carriedOut? (backend : Backend) : Step → Option Call
  | .call call =>
    match backend.perform call with
    | .ok _ => some call
    | .error _ => none
  | _ => none

/-- **The calls that succeed in steps**, in order. -/
def carriedOut (backend : Backend) : List Step → List Call
  | [] => []
  | step :: rest => (backend.carriedOut? step).toList ++ (backend.step step).carriedOut rest

variable {backend : Backend} {steps : List Step}

theorem stepAll_concat (backend : Backend) (steps : List Step) (step : Step) :
    backend.stepAll (steps ++ [step]) = (backend.stepAll steps).step step :=
  List.foldl_append

theorem carriedOut_concat (backend : Backend) (steps : List Step) (step : Step) :
    backend.carriedOut (steps ++ [step]) =
      backend.carriedOut steps ++ ((backend.stepAll steps).carriedOut? step).toList := by
  induction steps generalizing backend with
  | nil => exact List.append_nil _
  | cons first rest ih => rw [List.cons_append, carriedOut, ih, carriedOut, List.append_assoc]; rfl

/-- **A step carries out a call or leaves nodes and storage alone.** -/
theorem step_cases (backend : Backend) (step : Step) :
    (backend.carriedOut? step = none ∧ (backend.step step).nodes = backend.nodes ∧
        (backend.step step).storage = backend.storage) ∨
      ∃ call, step = .call call ∧ backend.carriedOut? step = some call ∧
        backend.obstacle? call = none ∧ backend.step step = backend.next call := by
  cases step with
  | changeScenario | clearEvents => exact .inl ⟨rfl, rfl, rfl⟩
  | call call =>
    cases h : backend.perform call with
    | error error => exact .inl (by simp [carriedOut?, step, after, h])
    | ok result =>
      obtain ⟨-, hfree, -, hnext⟩ := perform_eq_ok_iff.mp h
      exact .inr ⟨call, rfl, by simp [carriedOut?, h], hfree, by simp [step, after, h, hnext]⟩

/-- **What every step keeps, any number of steps keep.** -/
theorem stepAll_of_invariant {Holds : Backend → Prop} (hbackend : Holds backend)
    (hstep : ∀ backend step, Holds backend → Holds (backend.step step)) (steps : List Step) :
    Holds (backend.stepAll steps) := by
  induction steps generalizing backend with
  | nil => exact hbackend
  | cons step rest ih => exact ih (hstep backend step hbackend)

end Backend

end DatasetHosting
