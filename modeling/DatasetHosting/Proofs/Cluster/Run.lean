import DatasetHosting.Cluster.Provision
import DatasetHosting.Proofs.Cluster.Sequence

/-!
# Proofs/Cluster/Run — the calls that a run makes

A run talks to the backend only by calls.  `CarriesOut run session calls value failure` says that it makes
the given calls in order, stops at the first that fails, and returns `value` if none does; it never breaks
off.  The rules below follow the constructs that runs are written with, so the calls of a run are read off
its text.
-/

namespace DatasetHosting

variable {ε ε' α β : Type} {session : Session} {calls rest : List Call}

/-- What a run returned, if it did. -/
def Ending.value? : Ending ε α → Option α
  | ok value => some value
  | error _ | overflow => none

namespace Run

/-! ## One step of a run -/

section Bind

variable {session' : Session} {run : RunT ε α} {next : α → RunT ε β}

theorem bind_of_ok {value : α} (h : run session = (.ok value, session')) :
    (run >>= next) session = next value session' := by
  change RunT.bind run next session = _
  rw [RunT.bind, h]

theorem bind_of_error {error : ε} (h : run session = (.error error, session')) :
    (run >>= next) session = (.error error, session') := by
  change RunT.bind run next session = _
  rw [RunT.bind, h]

/-- Nothing comes behind a run that breaks off. -/
theorem bind_of_overflow (h : run session = (.overflow, session')) :
    (run >>= next) session = (.overflow, session') := by
  change RunT.bind run next session = _
  rw [RunT.bind, h]

theorem mapError_of_ok {value : α} (h : run session = (.ok value, session')) (change : ε → ε') :
    mapError change run session = (.ok value, session') := by
  rw [mapError, h]

theorem mapError_of_error {error : ε} (h : run session = (.error error, session'))
    (change : ε → ε') : mapError change run session = (.error (change error), session') := by
  rw [mapError, h]

theorem attempt_of_ok {value : α} (h : run session = (.ok value, session')) :
    (attempt run : RunT ε' (Except ε α)) session = (.ok (.ok value), session') := by
  rw [attempt, h]

theorem attempt_of_error {error : ε} (h : run session = (.error error, session')) :
    (attempt run : RunT ε' (Except ε α)) session = (.ok (.error error), session') := by
  rw [attempt, h]

/-- A run that breaks off cannot be caught. -/
theorem attempt_of_overflow (h : run session = (.overflow, session')) :
    (attempt run : RunT ε' (Except ε α)) session = (.overflow, session') := by
  rw [attempt, h]

theorem reserve_of_le {count most : UInt64} {size : Nat}
    (hfits : count.toNat * size ≤ maxListBytes ↔ count ≤ most) (h : count ≤ most) :
    (reserve count size : RunT ε Unit) session = (.ok (), session) := by
  rw [reserve, if_pos (hfits.mpr h)]

/-- A run breaks off that asks for more room than there is. -/
theorem reserve_of_lt {count most : UInt64} {size : Nat}
    (hfits : count.toNat * size ≤ maxListBytes ↔ count ≤ most) (h : most < count) :
    (reserve count size : RunT ε Unit) session = (.overflow, session) := by
  rw [reserve, if_neg (mt hfits.mp (UInt64.not_le.mpr h))]

/-- There is room for as many items as the largest number that there is room for, and for no more. -/
theorem bytes_le_iff {count most : UInt64} {size : Nat} (hmost : most.toNat * size ≤ maxListBytes)
    (hnext : maxListBytes < (most.toNat + 1) * size) :
    count.toNat * size ≤ maxListBytes ↔ count ≤ most := by
  rw [UInt64.le_iff_toNat_le]
  constructor
  · intro hfits
    refine Nat.le_of_not_lt fun hmore => ?_
    have hover := Nat.lt_of_lt_of_le hnext (Nat.mul_le_mul_right size hmore)
    exact absurd hfits (Nat.not_le.mpr hover)
  · exact fun hle => Nat.le_trans (Nat.mul_le_mul_right size hle) hmost

end Bind

/-- Reporting leaves the backend as it is. -/
theorem exists_report (level : LogLevel) (message : String) (fields : List (String × LogValue))
    (session : Session) :
    ∃ reported : Session, (report level message fields : RunT ε Unit) session = (.ok (), reported) ∧
      reported.backend = session.backend :=
  ⟨_, rfl, rfl⟩

section Call

variable {operation : Backend → Except BackendError (α × Backend)} {answer : α → Answer} {call : Call}

/-- A call that fails changes nothing. -/
theorem call_of_error {error : BackendError} (hop : session.backend.perform call =
      Backend.answering answer (operation session.backend))
    (h : session.backend.perform call = .error error) :
    Run.call operation session = (.error (.backend error), session) := by
  rw [h] at hop
  cases hres : operation session.backend with
  | error cause =>
    rw [hres] at hop
    obtain rfl := Except.error.inj hop
    rw [Run.call, hres]
  | ok result =>
    rw [hres] at hop
    cases hop

/-- …and one that succeeds returns what the backend answers. -/
theorem call_of_ok {result : Answer} {next : Backend} (hop : session.backend.perform call =
      Backend.answering answer (operation session.backend))
    (h : session.backend.perform call = .ok (result, next)) :
    ∃ value, answer value = result ∧
      Run.call operation session = (.ok value, { session with backend := next }) := by
  rw [h] at hop
  cases hres : operation session.backend with
  | error cause =>
    rw [hres] at hop
    cases hop
  | ok pair =>
    rw [hres] at hop
    obtain ⟨rfl, rfl⟩ := Prod.mk.inj (Except.ok.inj hop)
    exact ⟨pair.1, rfl, by rw [Run.call, hres]⟩

end Call

end Run

/-! ## Calls in order -/

/-- **The run makes the calls in order, up to the first that fails.**  It returns the value if all
succeed, and otherwise what `failure` makes of the calls done and the error. -/
inductive CarriesOut (run : RunT ε α) (session : Session) (calls : List Call) (value : α)
    (failure : List Call → BackendError → ε) : Prop where
  /-- All calls succeed. -/
  | finished (session' : Session) (hrun : run session = (.ok value, session'))
      (hcalls : session.backend.carryOut calls = .ok session'.backend)
  /-- A call fails behind calls that succeed. -/
  | stopped (done : List Call) (call : Call) (rest : List Call) (error : BackendError)
      (session' : Session) (hcalls : calls = done ++ call :: rest)
      (hdone : session.backend.carryOut done = .ok session'.backend)
      (hcall : session'.backend.perform call = .error error)
      (hrun : run session = (.error (failure done error), session'))

namespace CarriesOut

variable {run : RunT ε α} {value : α} {failure failure' : List Call → BackendError → ε}

theorem pure : CarriesOut (Pure.pure value : RunT ε α) session [] value failure :=
  .finished session rfl rfl

theorem report (level : LogLevel) (message : String) (fields : List (String × LogValue)) :
    CarriesOut (Run.report level message fields : RunT ε Unit) session [] () failure :=
  .finished _ rfl rfl

/-- Where there is room, making it adds no call. -/
theorem reserve {count most : UInt64} {size : Nat}
    (hfits : count.toNat * size ≤ maxListBytes ↔ count ≤ most) (h : count ≤ most) :
    CarriesOut (Run.reserve count size : RunT ε Unit) session [] () failure :=
  .finished session (Run.reserve_of_le hfits h) rfl

/-- Only what is made of the calls before a failing one matters. -/
theorem congr (h : CarriesOut run session calls value failure)
    (hf : ∀ done call rest error, calls = done ++ call :: rest →
      failure done error = failure' done error) :
    CarriesOut run session calls value failure' := by
  cases h with
  | finished session' hrun hcalls => exact .finished session' hrun hcalls
  | stopped done call rest error session' hcalls hdone hcall hrun =>
    rw [hf done call rest error hcalls] at hrun
    exact .stopped done call rest error session' hcalls hdone hcall hrun

/-- An operation makes its call, and its value is told by the backend's answer. -/
theorem call {operation : Backend → Except BackendError (α × Backend)} {call : Call} {value : α}
    {answer : α → Answer} (hop : session.backend.perform call =
      Backend.answering answer (operation session.backend))
    (hvalue : ∀ value', session.backend.answer call = answer value' → value' = value) :
    CarriesOut (Run.call operation) session [call] value fun _ error => .backend error := by
  cases hperform : session.backend.perform call with
  | error error =>
    exact .stopped [] call [] error session rfl rfl hperform (Run.call_of_error hop hperform)
  | ok result =>
    obtain ⟨value', hanswer, hrun⟩ := Run.call_of_ok hop hperform
    obtain ⟨-, -, hresult, -⟩ := Backend.perform_eq_ok_iff.mp hperform
    obtain rfl := hvalue value' (hresult.trans hanswer.symm)
    refine .finished { session with backend := result.2 } hrun ?_
    rw [Backend.carryOut, hperform]
    rfl

theorem callDone {operation : Backend → Except BackendError (Unit × Backend)} {call : Call}
    (hop : session.backend.perform call =
      Backend.answering (fun _ => .done) (operation session.backend)) :
    CarriesOut (Run.call operation) session [call] () fun _ error => .backend error :=
  .call hop fun _ _ => rfl

/-- **One run behind another makes the calls of both.** -/
theorem bind {next : α → RunT ε β} {value' : β} (h : CarriesOut run session calls value failure)
    (hnext : ∀ session', session.backend.carryOut calls = .ok session'.backend →
      CarriesOut (next value) session' rest value' fun done => failure (calls ++ done)) :
    CarriesOut (run >>= next) session (calls ++ rest) value' failure := by
  cases h with
  | stopped done call behind error session' hcalls hdone hcall hrun =>
    refine .stopped done call (behind ++ rest) error session' ?_ hdone hcall (Run.bind_of_error hrun)
    rw [hcalls, List.append_assoc, List.cons_append]
  | finished session' hrun hcalls =>
    cases hnext session' hcalls with
    | finished session'' hrun' hrest =>
      refine .finished session'' ((Run.bind_of_ok hrun).trans hrun') ?_
      rw [Backend.carryOut_append hcalls, hrest]
    | stopped done call behind error session'' hrest hdone hcall hrun' =>
      refine .stopped (calls ++ done) call behind error session'' ?_ ?_ hcall
        ((Run.bind_of_ok hrun).trans hrun')
      · rw [hrest, List.append_assoc]
      · rw [Backend.carryOut_append hcalls, hdone]

/-- Returning something made of the value adds no call. -/
theorem andReturn (result : α → β) (h : CarriesOut run session calls value failure) :
    CarriesOut (run >>= fun value => Pure.pure (result value)) session calls (result value)
      failure := by
  cases h with
  | finished session' hrun hcalls => exact .finished session' (Run.bind_of_ok hrun) hcalls
  | stopped done call rest error session' hcalls hdone hcall hrun =>
    exact .stopped done call rest error session' hcalls hdone hcall (Run.bind_of_error hrun)

/-- A call that answers nothing, in front of the rest of a run. -/
theorem callThen {operation : Backend → Except BackendError (Unit × Backend)} {call : Call}
    {next : Unit → Run β} {value' : β}
    (hop : session.backend.perform call =
      Backend.answering (fun _ => .done) (operation session.backend))
    (hnext : ∀ session', CarriesOut (next ()) session' rest value' fun _ error => .backend error) :
    CarriesOut (Run.call operation >>= next) session (call :: rest) value'
      fun _ error => .backend error :=
  (callDone hop).bind fun session' _ => hnext session'

/-- **A run of a single call** returns with it made, or fails with it and leaves the backend as it was. -/
theorem single_cases {call : Call} (h : CarriesOut run session [call] value failure) :
    (∃ session', run session = (.ok value, session') ∧
      session.backend.carryOut [call] = .ok session'.backend) ∨
    ∃ error session', run session = (.error (failure [] error), session') ∧
      session'.backend = session.backend ∧ session.backend.perform call = .error error := by
  cases h with
  | finished session' hrun hcalls => exact .inl ⟨session', hrun, hcalls⟩
  | stopped done next rest error session' hcalls hdone hcall hrun =>
    rcases List.append_eq_singleton_iff.mp hcalls.symm with ⟨rfl, hfirst⟩ | ⟨-, hrest⟩
    · obtain ⟨rfl, -⟩ := List.cons.inj hfirst
      have hsame : session.backend = session'.backend := Except.ok.inj hdone
      exact .inr ⟨error, session', hrun, hsame.symm, hsame ▸ hcall⟩
    · cases hrest

theorem mapError (change : ε → ε') (h : CarriesOut run session calls value failure) :
    CarriesOut (Run.mapError change run) session calls value
      fun done error => change (failure done error) := by
  cases h with
  | finished session' hrun hcalls =>
    exact .finished session' (Run.mapError_of_ok hrun change) hcalls
  | stopped done call rest error session' hcalls hdone hcall hrun =>
    exact .stopped done call rest error session' hcalls hdone hcall
      (Run.mapError_of_error hrun change)

end CarriesOut

end DatasetHosting
