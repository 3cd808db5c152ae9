import DatasetHosting.Proofs.Cluster.Operation

/-!
# Proofs/Cluster/Sequence — calls one after the other

`Backend.carryOut` makes calls until one fails.  It succeeds exactly if the scenario lets every call
through and none meets an obstacle on the way (`Backend.Unobstructed`), and then the backend it reaches is
the fold of the calls' effects (`Backend.nextAll`).
-/

namespace DatasetHosting.Backend

variable {backend final : Backend} {calls rest : List Call}

/-- **The backend after calls that all succeed**, or the first error. -/
def carryOut (backend : Backend) : List Call → Except BackendError Backend
  | [] => .ok backend
  | call :: rest =>
    match backend.perform call with
    | .ok (_, next) => next.carryOut rest
    | .error error => .error error

/-- The backend after calls, whatever stands in their way. -/
def nextAll (backend : Backend) (calls : List Call) : Backend :=
  calls.foldl next backend

/-- **The state stands in the way of none of the calls**, each one taken where those before it lead. -/
def Unobstructed (backend : Backend) : List Call → Prop
  | [] => True
  | call :: rest => backend.obstacle? call = none ∧ (backend.next call).Unobstructed rest

@[simp] theorem nextAll_nil : backend.nextAll [] = backend := rfl

@[simp] theorem nextAll_cons (backend : Backend) (call : Call) (rest : List Call) :
    backend.nextAll (call :: rest) = (backend.next call).nextAll rest := rfl

theorem nextAll_append (backend : Backend) (calls rest : List Call) :
    backend.nextAll (calls ++ rest) = (backend.nextAll calls).nextAll rest :=
  List.foldl_append

@[simp] theorem nextAll_scenario (backend : Backend) (calls : List Call) :
    (backend.nextAll calls).scenario = backend.scenario := by
  induction calls generalizing backend with
  | nil => rfl
  | cons call rest ih => rw [nextAll_cons, ih, next_scenario]

/-- **The log grows by one event for each call.** -/
theorem nextAll_events (backend : Backend) (calls : List Call) :
    (backend.nextAll calls).events = backend.events ++ calls.map backend.event := by
  induction calls generalizing backend with
  | nil => simp
  | cons call rest ih => simp [ih, event_next]

theorem unobstructed_append :
    backend.Unobstructed (calls ++ rest) ↔
      backend.Unobstructed calls ∧ (backend.nextAll calls).Unobstructed rest := by
  induction calls generalizing backend with
  | nil => simp [Unobstructed]
  | cons call calls ih => simp [Unobstructed, ih, and_assoc]

/-- **Calls all succeed exactly if the scenario lets each through and none is obstructed.** -/
theorem carryOut_eq_ok_iff :
    backend.carryOut calls = .ok final ↔
      (∀ call ∈ calls, backend.scenario.permits call = true) ∧ backend.Unobstructed calls ∧
        backend.nextAll calls = final := by
  induction calls generalizing backend with
  | nil => simp [carryOut, Unobstructed]
  | cons call calls ih =>
    rw [carryOut, perform_eq]
    cases hp : backend.scenario.permits call with
    | false => simp [hp]
    | true =>
      cases ho : backend.obstacle? call with
      | some error => simp [ho, Unobstructed]
      | none => simp [hp, ho, ih, Unobstructed]

theorem carryOut_append {mid : Backend} (h : backend.carryOut calls = .ok mid) :
    backend.carryOut (calls ++ rest) = mid.carryOut rest := by
  induction calls generalizing backend with
  | nil =>
    obtain rfl := Except.ok.inj h
    rfl
  | cons call calls ih =>
    rw [carryOut] at h
    rw [List.cons_append, carryOut]
    cases hp : backend.perform call with
    | error error =>
      rw [hp] at h
      cases h
    | ok result =>
      rw [hp] at h
      exact ih h

/-- Calls stop at the first that fails. -/
theorem carryOut_of_error {mid : Backend} {call : Call} {error : BackendError}
    (h : backend.carryOut calls = .ok mid) (hcall : mid.perform call = .error error) :
    backend.carryOut (calls ++ call :: rest) = .error error := by
  rw [carryOut_append h, carryOut, hcall]

/-- Of calls that the state does not obstruct only an injected failure stops one. -/
theorem error_of_unobstructed {mid : Backend} {call : Call} {done : List Call} {error : BackendError}
    (h : backend.Unobstructed (done ++ call :: rest)) (hdone : backend.carryOut done = .ok mid)
    (hcall : mid.perform call = .error error) :
    backend.scenario.permits call = false ∧ error = .injected call.operation call.target := by
  obtain ⟨-, -, rfl⟩ := carryOut_eq_ok_iff.mp hdone
  obtain ⟨hfree, -⟩ := (unobstructed_append.mp h).2
  rcases perform_eq_error_iff.mp hcall with ⟨hp, he⟩ | ⟨-, ho⟩
  · exact ⟨by rwa [nextAll_scenario] at hp, he⟩
  · rw [hfree] at ho
    cases ho

/-! ## Calls that may fail -/

/-- A call leaves the backend as it is, or nothing stands in its way and it is carried out. -/
theorem after_cases (backend : Backend) (call : Call) :
    backend.after call = backend ∨
      (backend.obstacle? call = none ∧ backend.after call = backend.next call) := by
  cases h : backend.perform call with
  | error error => simp [after, h]
  | ok result =>
    obtain ⟨-, hfree, -, hnext⟩ := perform_eq_ok_iff.mp h
    simp [after, h, hfree, hnext]

/-- **What every call keeps that is carried out, a whole sequence keeps**, whichever of its calls fail. -/
theorem performAll_of_invariant {Holds : Backend → Prop} (hbackend : Holds backend)
    (hstep : ∀ backend call, Holds backend → backend.obstacle? call = none →
      Holds (backend.next call)) (calls : List Call) : Holds (backend.performAll calls) := by
  induction calls generalizing backend with
  | nil => exact hbackend
  | cons call rest ih =>
    change Holds ((backend.after call).performAll rest)
    rcases backend.after_cases call with hsame | ⟨hfree, hnext⟩
    · rw [hsame]
      exact ih hbackend
    · rw [hnext]
      exact ih (hstep backend call hbackend hfree)

end DatasetHosting.Backend
