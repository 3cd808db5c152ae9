/-!
# Host/Diagnostic — why a rule was chosen

A diagnostic has one entry for each rule of the catalogue, in order, and says whether any rule matched.
-/

namespace DatasetHosting

/-- What became of one rule. -/
structure RuleDiagnostic where
  /-- The rule's name. -/
  ruleName : String
  /-- Whether the rule was chosen. -/
  matched : Bool
  /-- Why, in words. -/
  reason : String
  /-- The condition that was evaluated, if one was. -/
  expression : Option String
  deriving DecidableEq, Repr

/-- Whether any rule was chosen. -/
inductive Outcome where
  | success
  | noMatchingRule
  deriving DecidableEq, Repr, Inhabited

/-- The outcome's name in documents. -/
def Outcome.name : Outcome → String
  | success => "success"
  | noMatchingRule => "no_matching_rule"

/-- Every outcome. -/
def Outcome.all : List Outcome := [success, noMatchingRule]

/-- **A record of how a dataset was resolved.** -/
structure Diagnostic where
  /-- The catalogue's name. -/
  catalogueId : String
  /-- The dataset's identifier. -/
  datasetId : String
  /-- What became of each rule, in the catalogue's order. -/
  rules : List RuleDiagnostic
  /-- Whether any rule was chosen. -/
  outcome : Outcome
  deriving DecidableEq, Repr

/-- **The reason of an entry, in words.** A skipped rule is not evaluated whatever its condition; a failed
evaluation tells its error; otherwise the condition and its value, or their absence, are told. -/
def ruleReason (expression : Option String) (matched skipped : Bool) (failure : Option String) :
    String :=
  if skipped then "earlier rule already matched (rule not evaluated)"
  else
    match failure, expression, matched with
    | some error, some source, _ => s!"when: {source} evaluation failed: {error}"
    | some error, none, _ => s!"rule evaluation failed: {error}"
    | none, some source, true => s!"when: {source} evaluated to true"
    | none, some source, false => s!"when: {source} evaluated to false"
    | none, none, true => "no when condition (unconditional match)"
    | none, none, false => "rule did not match"

namespace RuleDiagnostic

/-- The entry of a rule behind the chosen one. -/
def skipped (ruleName : String) : RuleDiagnostic :=
  ⟨ruleName, false, ruleReason none false true none, none⟩

/-- The entry of a rule whose condition was evaluated. -/
def evaluated (ruleName : String) (expression : Option String) (matched : Bool) : RuleDiagnostic :=
  ⟨ruleName, matched, ruleReason expression matched false none, expression⟩

/-- The entry of a rule whose condition has no value. -/
def failed (ruleName : String) (expression : Option String) (error : String) : RuleDiagnostic :=
  ⟨ruleName, false, ruleReason expression false false (some error), expression⟩

end RuleDiagnostic

namespace Diagnostic

/-- A diagnostic without entries. -/
def empty (catalogueId datasetId : String) : Diagnostic :=
  ⟨catalogueId, datasetId, [], .success⟩

/-- The diagnostic with one more entry. -/
def add (diagnostic : Diagnostic) (entry : RuleDiagnostic) : Diagnostic :=
  { diagnostic with rules := diagnostic.rules ++ [entry] }

/-- The entry of the chosen rule. -/
def matchedRule? (diagnostic : Diagnostic) : Option RuleDiagnostic :=
  diagnostic.rules.find? (·.matched)

end Diagnostic

end DatasetHosting
