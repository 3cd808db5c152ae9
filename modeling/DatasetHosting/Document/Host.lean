import DatasetHosting.Document.Storage
import DatasetHosting.Host.Catalogue
import DatasetHosting.Host.Diagnostic

/-!
# Document/Host — catalogues and diagnostics as documents

A strategy is a value with a tag: its `type` says which of the three it is, and the other fields are those
of that strategy. A rule's condition is the field `when`. Texts that may be missing are none where they
are missing or null.
-/

namespace DatasetHosting

open Document

variable {m : Type → Type} [Monad m] [MonadLiftT Option m] {α : Type} [Document m α]

namespace HostKind

/-- A kind of hosting, by its name. -/
def ofDocument? (a : α) : m HostKind :=
  readConstant all name a

/-- The kind's name. -/
def toJson (kind : HostKind) : Json :=
  .string kind.name

end HostKind

namespace Strategy

/-- The field that says which strategy it is. -/
def tagName : String := "type"

/-- The fields of a standalone strategy. -/
def standaloneFields : List String := ["min_format"]

/-- The fields of a data center strategy. -/
def dataCenterFields : List String := ["nodes", "shared_storage", "min_format"]

/-- The fields of an external strategy. -/
def externalFields : List String := ["address"]

/-- The strategy of a kind, from the data that stand beside its tag. -/
def ofData? (data : Data) : HostKind → Option Strategy
  | .standalone => do
    let fields ← fields? standaloneFields data
    return .standalone (← fields.orDefault "min_format" none (readNullable readUInt32))
  | .dataCenter => do
    let fields ← fields? dataCenterFields data
    return .dataCenter (← fields.required "nodes" readUInt64)
      (← fields.orDefault "shared_storage" {} StorageConfig.ofDocument?)
      (← fields.orDefault "min_format" none (readNullable readUInt32))
  | .external => do
    let fields ← fields? externalFields data
    return .external (← fields.required "address" text?)

/-- **A strategy**, below so many levels of nesting. -/
def ofDocument? (above : Nat) (a : α) : m Strategy := do
  let (tag, data) ← tagged? tagName above a
  let kind ← HostKind.all.find? (·.name == tag)
  ofData? data kind

/-- A least format as JSON. -/
def formatJson (minFormat : Option UInt32) : Json :=
  .optional (fun format => .natural format.toNat) minFormat

/-- A strategy as JSON. -/
def toJson (strategy : Strategy) : Json :=
  let tag := (tagName, Json.string strategy.kind.name)
  match strategy with
  | .standalone minFormat => .record [tag, ("min_format", formatJson minFormat)]
  | .dataCenter nodes sharedStorage minFormat =>
    .record
      [tag, ("nodes", .natural nodes.toNat), ("shared_storage", sharedStorage.toJson),
       ("min_format", formatJson minFormat)]
  | .external address => .record [tag, ("address", .string address)]

end Strategy

namespace Rule

/-- The fields of a rule. -/
def fieldNames : List String := ["name", "when", "strategy"]

/-- A rule, below so many levels of nesting. -/
def ofDocument? (above : Nat) (a : α) : m Rule := do
  let fields ← fields? fieldNames a
  return {
    name := ← fields.required "name" text?
    condition := ← fields.orDefault "when" none (readNullable text?)
    strategy := ← fields.required "strategy" (Strategy.ofDocument? (above + 1)) }

/-- A rule as JSON. -/
def toJson (rule : Rule) : Json :=
  .record
    [("name", .string rule.name), ("when", .optional .string rule.condition),
     ("strategy", rule.strategy.toJson)]

end Rule

namespace Catalogue

/-- The fields of a catalogue. -/
def fieldNames : List String := ["id", "description", "rules"]

/-- **A catalogue.** Its rules stand below two levels, the catalogue and its list. -/
def ofDocument? (a : α) : m Catalogue := do
  let fields ← fields? fieldNames a
  return {
    id := ← fields.required "id" text?
    description := ← fields.orDefault "description" none (readNullable text?)
    rules := ← fields.required "rules" (readList (Rule.ofDocument? 2)) }

/-- A catalogue as JSON. -/
def toJson (catalogue : Catalogue) : Json :=
  .record
    [("id", .string catalogue.id), ("description", .optional .string catalogue.description),
     ("rules", .list (catalogue.rules.map Rule.toJson))]

end Catalogue

/-! ## Diagnostics -/

namespace Outcome

/-- An outcome, by its name. -/
def ofDocument? (a : α) : m Outcome :=
  readConstant all name a

/-- The outcome's name. -/
def toJson (outcome : Outcome) : Json :=
  .string outcome.name

end Outcome

namespace RuleDiagnostic

/-- The fields of an entry. -/
def fieldNames : List String := ["rule_name", "matched", "reason", "evaluated_expression"]

/-- An entry of a diagnostic. -/
def ofDocument? (a : α) : m RuleDiagnostic := do
  let fields ← fields? fieldNames a
  return {
    ruleName := ← fields.required "rule_name" text?
    matched := ← fields.required "matched" boolean?
    reason := ← fields.required "reason" text?
    expression := ← fields.nullable "evaluated_expression" text? }

/-- An entry as JSON. -/
def toJson (entry : RuleDiagnostic) : Json :=
  .record
    [("rule_name", .string entry.ruleName), ("matched", .boolean entry.matched),
     ("reason", .string entry.reason),
     ("evaluated_expression", .optional .string entry.expression)]

end RuleDiagnostic

namespace Diagnostic

/-- The fields of a diagnostic. -/
def fieldNames : List String := ["catalogue_id", "dataset_id", "evaluated_rules", "outcome"]

/-- A diagnostic. -/
def ofDocument? (a : α) : m Diagnostic := do
  let fields ← fields? fieldNames a
  return {
    catalogueId := ← fields.required "catalogue_id" text?
    datasetId := ← fields.required "dataset_id" text?
    rules := ← fields.required "evaluated_rules" (readList RuleDiagnostic.ofDocument?)
    outcome := ← fields.required "outcome" Outcome.ofDocument? }

/-- A diagnostic as JSON. -/
def toJson (diagnostic : Diagnostic) : Json :=
  .record
    [("catalogue_id", .string diagnostic.catalogueId),
     ("dataset_id", .string diagnostic.datasetId),
     ("evaluated_rules", .list (diagnostic.rules.map RuleDiagnostic.toJson)),
     ("outcome", diagnostic.outcome.toJson)]

end Diagnostic

end DatasetHosting
