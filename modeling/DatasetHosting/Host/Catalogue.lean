import DatasetHosting.Condition.Text
import DatasetHosting.Host.Strategy
import DatasetHosting.Text.Blank

/-!
# Host/Catalogue — ordered rules that choose a strategy

A catalogue lists rules in order of precedence. Validation takes the rules in that order and reports the
first offence: a name that an earlier rule has, then a condition that cannot be used, then a strategy that
cannot be carried out.
-/

namespace DatasetHosting

/-- A rule: a strategy for the datasets of which its condition holds, or for all. -/
structure Rule where
  /-- The rule's name, unlike that of any other rule. -/
  name : String
  /-- The condition, as a text. -/
  condition : Option String
  /-- The strategy it chooses. -/
  strategy : Strategy
  deriving DecidableEq, Repr, Inhabited

/-- A list of rules; the first that fits a dataset decides. -/
structure Catalogue where
  /-- The catalogue's name. -/
  id : String
  /-- What it is for. -/
  description : Option String
  /-- The rules in order of precedence. -/
  rules : List Rule
  deriving DecidableEq, Repr, Inhabited

/-! ## Validation -/

/-- Why a catalogue is not valid. -/
inductive CatalogueError where
  | noRules (catalogue : String)
  | duplicateRule (rule : String)
  | invalidCondition (rule : String) (error : Condition.TextError)
  | tooFewNodes (rule : String) (nodes : UInt64)
  | emptyAddress (rule : String)
  deriving DecidableEq, Repr

/-- The wording of a catalogue error. -/
def CatalogueError.message : CatalogueError → String
  | noRules catalogue => s!"catalogue '{catalogue}' has no rules"
  | duplicateRule rule => s!"duplicate rule name '{rule}'"
  | invalidCondition rule error => s!"invalid expression in rule '{rule}': " ++ error.message
  | tooFewNodes rule nodes =>
    s!"rule '{rule}' asks for a data center of " ++ toString nodes.toNat ++
      " node(s), at least 2 are required"
  | emptyAddress rule => s!"rule '{rule}' has an empty external address"

namespace Rule

/-- Checks the rule's condition, if it has one. -/
def checkCondition (rule : Rule) : Except CatalogueError Unit :=
  match rule.condition with
  | none => .ok ()
  | some source => (Condition.validate source).mapError (.invalidCondition rule.name)

/-- Checks that the rule's strategy can be carried out. -/
def checkStrategy (rule : Rule) : Except CatalogueError Unit :=
  match rule.strategy with
  | .standalone _ => .ok ()
  | .dataCenter nodes _ _ =>
    if nodes < Strategy.minNodes then .error (.tooFewNodes rule.name nodes) else .ok ()
  | .external address =>
    if Text.isBlankText address then .error (.emptyAddress rule.name) else .ok ()

/-- Checks a rule behind rules of the given names. -/
def check (earlier : List String) (rule : Rule) : Except CatalogueError Unit := do
  if rule.name ∈ earlier then .error (.duplicateRule rule.name)
  rule.checkCondition
  rule.checkStrategy

end Rule

namespace Catalogue

/-- Checks rules that follow rules of the given names. -/
def checkRules (earlier : List String) : List Rule → Except CatalogueError Unit
  | [] => .ok ()
  | rule :: rest => do
    rule.check earlier
    checkRules (rule.name :: earlier) rest

/-- **Validation of a catalogue**: it has rules, and each of them passes its checks. -/
def validate (catalogue : Catalogue) : Except CatalogueError Unit :=
  match catalogue.rules with
  | [] => .error (.noRules catalogue.id)
  | rules => checkRules [] rules

/-! ## Catalogues with a name -/

/-- The rule that hosts format 8 and newer on a data center of two nodes. -/
def dataCenterRule : Rule :=
  ⟨"data-center", some "format >= 8", .dataCenter 2 {} (some 8)⟩

/-- The rule that hosts format 7 on one node. -/
def standaloneRule : Rule :=
  ⟨"standalone", some "format == 7", .standalone (some 7)⟩

/-- **The standard catalogue.** -/
def standard : Catalogue where
  id := "standard"
  description := some "Data Center for format 8+, standalone for format 7"
  rules := [dataCenterRule, standaloneRule]

/-- A catalogue for scenarios: three nodes for large clusters, otherwise the standard rules. -/
def scaled : Catalogue where
  id := "scaled"
  description := some "Three nodes for large clusters, otherwise the standard layout"
  rules :=
    [⟨"large-cluster", some "label == \"large-cluster\" AND format >= 8",
       .dataCenter 3 ⟨false, true⟩ (some 8)⟩,
     dataCenterRule, standaloneRule]

end Catalogue

end DatasetHosting
