import DatasetHosting.Cluster.Backend
import DatasetHosting.Host.Strategy
import DatasetHosting.Log

/-!
# Cluster/Run — acting on a backend

A run acts on a backend and reports to a log. It returns a value or fails, and what it did before a failure
stays done. It may also break off: a list can only be so long, and a run that asks for more room than that
(`Run.reserve`) goes no further and returns nothing, not even a failure, so nobody undoes what it did.
-/

namespace DatasetHosting

/-! ## Failures -/

/-- Why a formula cannot be carried out, whatever the backend does. -/
inductive FormulaError where
  | incompatibleDataset (datasetId : String) (format minFormat : UInt32)
  | tooFewNodes (nodes : UInt64)
  | missingObjectStore (error : MissingObjectStore)
  deriving DecidableEq, Repr

/-- The wording of a formula error. -/
def FormulaError.message : FormulaError → String
  | incompatibleDataset datasetId format minFormat =>
    s!"dataset '{datasetId}' has format " ++ toString format.toNat ++
      ", formula requires at least " ++ toString minFormat.toNat
  | tooFewNodes nodes =>
    "a data center needs at least " ++ toString Strategy.minNodes.toNat ++ " nodes, " ++
      toString nodes.toNat ++ " requested"
  | missingObjectStore error => error.message

/-- Why a run failed. -/
inductive Failure where
  | formula (error : FormulaError)
  | backend (error : BackendError)
  /-- A node answers with a document that is no status. -/
  | unreadableStatus
  deriving DecidableEq, Repr

/-- The wording of a failure. -/
def Failure.message : Failure → String
  | formula error => error.message
  | backend error => error.message
  | unreadableStatus => "unreadable status document"

/-! ## Runs -/

/-- What a run acts on. -/
structure Session where
  /-- The backend. -/
  backend : Backend
  /-- What has been reported. -/
  log : List LogEntry := []
  deriving DecidableEq, Repr, Inhabited

/-- **How a run ends.** -/
inductive Ending (ε α : Type) where
  /-- It returns a value. -/
  | ok (value : α)
  /-- It fails. -/
  | error (cause : ε)
  /-- It asked for more room than a list can have, and breaks off there. -/
  | overflow
  deriving DecidableEq, Repr

/-- Changes what is returned. -/
def Ending.map {ε α β : Type} (change : α → β) : Ending ε α → Ending ε β
  | ok value => ok (change value)
  | error cause => error cause
  | overflow => overflow

/-- A run that fails for reasons `ε`: it ends, and leaves the session either way. -/
def RunT (ε α : Type) : Type :=
  Session → Ending ε α × Session

/-- **A run.** -/
abbrev Run (α : Type) := RunT Failure α

/-- One run behind another, which is begun only if the first returns. -/
def RunT.bind {ε α β : Type} (run : RunT ε α) (next : α → RunT ε β) : RunT ε β := fun session =>
  match run session with
  | (.ok value, session) => next value session
  | (.error cause, session) => (.error cause, session)
  | (.overflow, session) => (.overflow, session)

instance {ε : Type} : Monad (RunT ε) where
  pure value session := (.ok value, session)
  bind := RunT.bind

/-- The most bytes that a list can take: the largest number that a signed word holds. -/
def maxListBytes : Nat :=
  9223372036854775807

namespace Run

variable {α ε ε' : Type}

/-- What is known already. -/
def ofExcept : Except ε α → RunT ε α
  | .ok value => pure value
  | .error cause => fun session => (.error cause, session)

/-- Changes why the run fails. -/
def mapError (change : ε → ε') (run : RunT ε α) : RunT ε' α := fun session =>
  match run session with
  | (.ok value, session) => (.ok value, session)
  | (.error cause, session) => (.error (change cause), session)
  | (.overflow, session) => (.overflow, session)

/-- Returns a failure as a value. -/
def attempt (run : RunT ε α) : RunT ε' (Except ε α) := fun session =>
  match run session with
  | (.ok value, session) => (.ok (.ok value), session)
  | (.error cause, session) => (.ok (.error cause), session)
  | (.overflow, session) => (.overflow, session)

/-- **Makes room for a list** of `count` items of `size` bytes. Whether there is so much memory is not
asked. -/
def reserve (count : UInt64) (size : Nat) : RunT ε Unit := fun session =>
  (if count.toNat * size ≤ maxListBytes then .ok () else .overflow, session)

/-- Reports to the log. -/
def report (level : LogLevel) (message : String) (fields : List (String × LogValue)) : RunT ε Unit :=
  fun session => (.ok (), { session with log := session.log ++ [⟨level, message, fields⟩] })

/-- One call of the backend. A call that fails changes nothing. -/
def call (operation : Backend → Except BackendError (α × Backend)) : Run α := fun session =>
  match operation session.backend with
  | .ok (answer, backend) => (.ok answer, { session with backend := backend })
  | .error error => (.error (.backend error), session)

/-- Reports a failure instead of failing. -/
def orReport (run : Run Unit) (message : String) (fields : List (String × LogValue)) :
    RunT ε Unit := do
  match ← attempt run with
  | .ok () => pure ()
  | .error failure => report .warn message (fields ++ [("error", .text failure.message)])

end Run

end DatasetHosting
