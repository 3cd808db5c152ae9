import DatasetHosting.Host.Catalogue
import DatasetHosting.Host.Diagnostic
import DatasetHosting.Log

/-!
# Host/Resolution — the first rule that fits

A dataset with a well-formed identifier gets the strategy of the first rule whose condition holds of its
attributes. Rules behind it are not looked at; a rule whose condition has no value does not fit.
Resolving does nothing to the world.
-/

namespace DatasetHosting

/-- **The attributes of a dataset** that conditions may mention. -/
def Dataset.attributes (dataset : Dataset) : Condition.Attributes :=
  [("dataset", dataset.id), ("label", dataset.label), ("format", toString dataset.format.toNat),
   ("region", dataset.location.region.name)]

/-- Whether a rule fits; one without a condition always does. -/
def Rule.fits (rule : Rule) (attributes : Condition.Attributes) : Except Condition.TextError Bool :=
  match rule.condition with
  | none => .ok true
  | some source => Condition.holds attributes source

/-- The first rule that fits, and an entry for each rule. -/
def selectRule (attributes : Condition.Attributes) : List Rule → Option Rule × List RuleDiagnostic
  | [] => (none, [])
  | rule :: rest =>
    match rule.fits attributes with
    | .ok true =>
      (some rule,
       .evaluated rule.name rule.condition true :: rest.map fun later => .skipped later.name)
    | .ok false =>
      let (chosen, entries) := selectRule attributes rest
      (chosen, .evaluated rule.name rule.condition false :: entries)
    | .error e =>
      let (chosen, entries) := selectRule attributes rest
      (chosen, .failed rule.name rule.condition e.message :: entries)

/-- The strategy for a dataset, and how it was found. -/
structure Resolution where
  /-- The chosen rule's name. -/
  ruleName : String
  /-- Its strategy. -/
  strategy : Strategy
  /-- What became of each rule. -/
  diagnostic : Diagnostic
  deriving DecidableEq, Repr

/-- Why a catalogue has no strategy for a dataset. -/
inductive ResolutionError where
  | malformedIdentifier (id : String) (reason : IdentifierError)
  | noMatchingRule (diagnostic : Diagnostic)
  deriving DecidableEq, Repr

/-- The wording of a resolution error, given that of a text refused as a UUID. -/
def ResolutionError.message (wording : UuidError → String) : ResolutionError → String
  | malformedIdentifier _ reason => "malformed dataset identifier: " ++ reason.message wording
  | noMatchingRule diagnostic =>
    "no host rule matched dataset '" ++ diagnostic.datasetId ++ "' in catalogue '" ++
      diagnostic.catalogueId ++ "'"

namespace Catalogue

/-- The diagnostic of a selection among the catalogue's rules. -/
def diagnosticOf (catalogue : Catalogue) (dataset : Dataset)
    (selection : Option Rule × List RuleDiagnostic) : Diagnostic where
  catalogueId := catalogue.id
  datasetId := dataset.id
  rules := selection.2
  outcome := if selection.1.isSome then .success else .noMatchingRule

/-- **The strategy for a dataset.** -/
def resolve (catalogue : Catalogue) (dataset : Dataset) : Except ResolutionError Resolution := do
  let _ ← dataset.uuid.mapError (.malformedIdentifier dataset.id)
  let selection := selectRule dataset.attributes catalogue.rules
  let diagnostic := catalogue.diagnosticOf dataset selection
  match selection.1 with
  | some rule => return ⟨rule.name, rule.strategy, diagnostic⟩
  | none => .error (.noMatchingRule diagnostic)

/-- What is logged when the catalogue resolves the dataset, given the wording of a text refused as a UUID. -/
def resolveLog (catalogue : Catalogue) (wording : UuidError → String) (dataset : Dataset) : LogEntry :=
  match catalogue.resolve dataset with
  | .ok resolution =>
    ⟨.debug, "selected host rule",
      [("dataset", .text dataset.id), ("rule", .text resolution.ruleName),
       ("kind", .text resolution.strategy.kind.logName)]⟩
  | .error (.malformedIdentifier id reason) =>
    ⟨.warn, "rejecting dataset", [("dataset", .text id), ("reason", .text (reason.message wording))]⟩
  | .error (.noMatchingRule diagnostic) =>
    ⟨.warn, "no host rule matched",
      [("dataset", .text diagnostic.datasetId), ("catalogue", .text diagnostic.catalogueId)]⟩

/-- The formula that hosts a dataset. -/
def host (catalogue : Catalogue) (dataset : Dataset) : Except ResolutionError Formula := do
  let resolution ← catalogue.resolve dataset
  return ⟨dataset, resolution.strategy⟩

end Catalogue

end DatasetHosting
