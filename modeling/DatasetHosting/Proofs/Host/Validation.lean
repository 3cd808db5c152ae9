import Mathlib
import DatasetHosting.Dataset.WellKnown
import DatasetHosting.Proofs.Condition.Evaluation
import DatasetHosting.Proofs.Host.Resolution

/-!
# Proofs/Host/Validation — no rule of a valid catalogue fails to be evaluated

A rule whose condition has no value is passed over as if it did not match.  Validation rules that out
beforehand: it admits only conditions over the known identifiers, and every dataset has an attribute for
each of those (`Dataset.attributes_defines`).
-/

namespace DatasetHosting

open Condition (Attributes knownIdentifiers)

variable {catalogue : Catalogue} {dataset : Dataset} {rule : Rule}

/-! ## What validation admits -/

theorem Rule.checkCondition_eq_ok_iff :
    rule.checkCondition = .ok () ↔
      ∀ source, rule.condition = some source → Condition.validate source = .ok () := by
  rw [Rule.checkCondition]
  cases rule.condition with
  | none => simp
  | some source =>
    have hall : (∀ text, some source = some text → Condition.validate text = .ok ()) ↔
        Condition.validate source = .ok () := by simp
    rw [hall]
    exact Condition.mapError_eq_ok_iff

/-- A rule passes behind rules of the given names if its name is new and both its parts pass. -/
theorem Rule.check_eq_ok_iff {earlier : List String} :
    rule.check earlier = .ok () ↔
      rule.name ∉ earlier ∧ rule.checkCondition = .ok () ∧ rule.checkStrategy = .ok () := by
  rw [Rule.check]
  by_cases hname : rule.name ∈ earlier
  · simp [hname, bind, Except.bind]
  · cases hc : rule.checkCondition <;> simp [hname, bind, Except.bind]

theorem Catalogue.checkRules_cons_eq_ok_iff {earlier : List String} {rest : List Rule} :
    checkRules earlier (rule :: rest) = .ok () ↔
      rule.check earlier = .ok () ∧ checkRules (rule.name :: earlier) rest = .ok () := by
  rw [checkRules]
  cases hc : rule.check earlier <;> simp [bind, Except.bind]

/-- Rules that pass in their order pass on their own, whatever the names before them. -/
theorem Catalogue.checks_of_checkRules {earlier : List String} {rules : List Rule}
    (h : checkRules earlier rules = .ok ()) :
    ∀ rule ∈ rules, rule.checkCondition = .ok () ∧ rule.checkStrategy = .ok () := by
  induction rules generalizing earlier with
  | nil => exact fun _ hr => absurd hr List.not_mem_nil
  | cons first rest ih =>
    obtain ⟨hfirst, hrest⟩ := checkRules_cons_eq_ok_iff.mp h
    exact List.forall_mem_cons.mpr ⟨(Rule.check_eq_ok_iff.mp hfirst).2, ih hrest⟩

theorem Catalogue.validate_checks (h : catalogue.validate = .ok ()) :
    ∀ rule ∈ catalogue.rules, rule.checkCondition = .ok () ∧ rule.checkStrategy = .ok () := by
  rw [Catalogue.validate] at h
  split at h
  · cases h
  · exact checks_of_checkRules h

/-- **Every condition of a valid catalogue is valid**… -/
theorem Catalogue.validate_condition (h : catalogue.validate = .ok ()) :
    ∀ rule ∈ catalogue.rules, rule.checkCondition = .ok () :=
  fun rule hr => (validate_checks h rule hr).1

/-- **…and so is every strategy.** -/
theorem Catalogue.validate_strategy (h : catalogue.validate = .ok ()) :
    ∀ rule ∈ catalogue.rules, rule.checkStrategy = .ok () :=
  fun rule hr => (validate_checks h rule hr).2

/-! ## Evaluation over a dataset -/

/-- **A dataset has an attribute for each known identifier.** -/
theorem Dataset.attributes_defines (dataset : Dataset) :
    ∀ name ∈ knownIdentifiers, dataset.attributes.Defines name := by
  intro name hn
  simp only [knownIdentifiers, List.mem_cons, List.not_mem_nil, or_false] at hn
  rcases hn with rfl | rfl | rfl | rfl <;> exact ⟨_, rfl⟩

/-- **A condition that passes its check has a value for every dataset.** -/
theorem Rule.fits_of_checkCondition (h : rule.checkCondition = .ok ()) (dataset : Dataset) :
    ∃ value, rule.fits dataset.attributes = .ok value := by
  rw [Rule.fits]
  cases hc : rule.condition with
  | none => exact ⟨true, rfl⟩
  | some source =>
    have hs := Rule.checkCondition_eq_ok_iff.mp h source hc
    exact Condition.holds_of_validate hs dataset.attributes_defines

theorem Rule.verdict_of_fits {attributes : Attributes} {value : Bool}
    (h : rule.fits attributes = .ok value) :
    rule.verdict attributes = .evaluated rule.name rule.condition value := by
  rw [Rule.verdict, h]

/-! ## Entries of failed evaluations -/

/-- An entry that tells of an evaluation without a value. -/
def RuleDiagnostic.IsFailure (entry : RuleDiagnostic) : Prop :=
  ∃ ruleName expression error, entry = .failed ruleName expression error

/-- The reason of a rule that has a value never reads like that of one that has none. -/
theorem ruleReason_ne_failure (expression : Option String) (value matched : Bool) (error : String) :
    ruleReason expression value false none ≠ ruleReason expression matched false (some error) := by
  intro h
  have hcs := congrArg String.toList h
  cases expression <;> cases value <;> simp [ruleReason, toString] at hcs

theorem RuleDiagnostic.not_isFailure_evaluated (ruleName : String) (expression : Option String)
    (value : Bool) : ¬ (RuleDiagnostic.evaluated ruleName expression value).IsFailure := by
  rintro ⟨name', expression', error, h⟩
  simp only [evaluated, failed, mk.injEq] at h
  obtain ⟨-, -, hreason, rfl⟩ := h
  exact ruleReason_ne_failure _ _ _ _ hreason

theorem RuleDiagnostic.not_isFailure_skipped (ruleName : String) :
    ¬ (RuleDiagnostic.skipped ruleName).IsFailure := by
  rintro ⟨name', expression', error, h⟩
  simp only [skipped, failed, mk.injEq] at h
  obtain ⟨-, -, hreason, rfl⟩ := h
  have hcs := congrArg String.toList hreason
  simp [ruleReason, toString] at hcs

/-- The entries of rules that all have values are skips and evaluations. -/
theorem entriesUpTo_of_fits {attributes : Attributes} {rules : List Rule} {n k : Nat}
    {entry : RuleDiagnostic} (h : ∀ rule ∈ rules, ∃ value, rule.fits attributes = .ok value)
    (hk : (entriesUpTo attributes rules n)[k]? = some entry) :
    ¬ entry.IsFailure ∧ ∃ rule, rules[k]? = some rule ∧
      (entry = .skipped rule.name ∨
        ∃ value, rule.fits attributes = .ok value ∧
          entry = .evaluated rule.name rule.condition value) := by
  obtain ⟨rule, hr, he⟩ := getElem?_entriesUpTo_eq_some hk
  obtain ⟨value, hv⟩ := h rule (List.mem_of_getElem? hr)
  rw [Rule.verdict_of_fits hv] at he
  split at he
  · subst he
    exact ⟨RuleDiagnostic.not_isFailure_evaluated _ _ _, rule, hr, .inr ⟨value, hv, rfl⟩⟩
  · subst he
    exact ⟨RuleDiagnostic.not_isFailure_skipped _, rule, hr, .inl rfl⟩

/-! ## Resolution by a valid catalogue -/

/-- The diagnostic that resolving a dataset yields, none if its identifier is malformed. -/
def Catalogue.diagnosis? (catalogue : Catalogue) (dataset : Dataset) : Option Diagnostic :=
  match catalogue.resolve dataset with
  | .ok resolution => some resolution.diagnostic
  | .error (.noMatchingRule diagnostic) => some diagnostic
  | .error (.malformedIdentifier ..) => none

/-- A dataset with an id of its form has a diagnosis of the rules up to one of them. -/
theorem Catalogue.diagnosis?_of_wellFormed (catalogue : Catalogue) {uuid : Uuid}
    (hid : parseIdentifier dataset.id = .ok uuid) :
    ∃ n outcome, catalogue.diagnosis? dataset =
      some (catalogue.diagnosticUpTo dataset n outcome) := by
  rcases catalogue.resolve_cases hid with ⟨i, rule, -, hres⟩ | ⟨-, hres⟩
  · exact ⟨i + 1, .success, by rw [diagnosis?, hres]⟩
  · exact ⟨catalogue.rules.length, .noMatchingRule, by rw [diagnosis?, hres]⟩

/-- **Validation is sound for every later resolution.**  Each rule of a valid catalogue has a value over
every dataset, so no entry of a diagnostic comes from a failed evaluation; and a valid text has a value
over any attributes that define the known identifiers. -/
theorem Catalogue.evaluation_of_validate :
    (∀ catalogue : Catalogue, catalogue.validate = .ok () →
      (∀ rule ∈ catalogue.rules, ∀ dataset : Dataset,
        ∃ value, rule.fits dataset.attributes = .ok value) ∧
      ∀ (dataset : Dataset) (uuid : Uuid), parseIdentifier dataset.id = .ok uuid →
        ∃ diagnostic, catalogue.diagnosis? dataset = some diagnostic ∧
          ∀ (k : Nat) (entry : RuleDiagnostic), diagnostic.rules[k]? = some entry →
            ¬ entry.IsFailure ∧ ∃ rule, catalogue.rules[k]? = some rule ∧
              (entry = .skipped rule.name ∨
                ∃ value, rule.fits dataset.attributes = .ok value ∧
                  entry = .evaluated rule.name rule.condition value)) ∧
    ∀ (source : String) (attributes : Attributes), Condition.validate source = .ok () →
      (∀ name ∈ knownIdentifiers, attributes.Defines name) →
        ∃ value, Condition.holds attributes source = .ok value := by
  refine ⟨fun catalogue hcat => ?_, fun _ _ hs hk => Condition.holds_of_validate hs hk⟩
  have hfits : ∀ rule ∈ catalogue.rules, ∀ dataset : Dataset,
      ∃ value, rule.fits dataset.attributes = .ok value :=
    fun rule hr => Rule.fits_of_checkCondition (validate_condition hcat rule hr)
  refine ⟨hfits, fun dataset uuid hid => ?_⟩
  obtain ⟨n, outcome, hd⟩ := catalogue.diagnosis?_of_wellFormed hid
  exact ⟨_, hd, fun k entry hk => entriesUpTo_of_fits (fun rule hr => hfits rule hr dataset) hk⟩

set_option maxRecDepth 4000 in
/-- A catalogue of one rule evaluates it over a dataset of format 8. -/
theorem Catalogue.standaloneRule_evaluates :
    let catalogue : Catalogue := ⟨"one-node", none, [standaloneRule]⟩
    catalogue.validate = .ok () ∧ standaloneRule ∈ catalogue.rules ∧
      (∃ value, standaloneRule.fits Dataset.formatEight.attributes = .ok value) ∧
      parseIdentifier Dataset.formatEight.id = .ok ⟨"631c70d4084b455c9785b01068b9f07c".toList⟩ ∧
      (∃ diagnostic, catalogue.diagnosis? Dataset.formatEight = some diagnostic ∧
        ∀ (k : Nat) (entry : RuleDiagnostic), diagnostic.rules[k]? = some entry →
          ¬ entry.IsFailure) ∧
      Condition.validate "format == 7" = .ok () ∧
      (∀ name ∈ knownIdentifiers, Dataset.formatEight.attributes.Defines name) ∧
      ∃ value, Condition.holds Dataset.formatEight.attributes "format == 7" = .ok value := by
  intro catalogue
  have htext : Condition.validate "format == 7" = .ok () := by cbv
  have hcond : standaloneRule.checkCondition = .ok () :=
    Rule.checkCondition_eq_ok_iff.mpr fun source hs => Option.some.inj hs ▸ htext
  have hcat : catalogue.validate = .ok () :=
    checkRules_cons_eq_ok_iff.mpr
      ⟨Rule.check_eq_ok_iff.mpr ⟨List.not_mem_nil, hcond, rfl⟩, rfl⟩
  have hrule : standaloneRule ∈ catalogue.rules := List.mem_singleton.mpr rfl
  have hid : parseIdentifier Dataset.formatEight.id =
      .ok ⟨"631c70d4084b455c9785b01068b9f07c".toList⟩ := by cbv
  have hknown := Dataset.formatEight.attributes_defines
  obtain ⟨hfits, hdiag⟩ := evaluation_of_validate.1 catalogue hcat
  obtain ⟨diagnostic, hd, hentries⟩ := hdiag Dataset.formatEight _ hid
  exact ⟨hcat, hrule, hfits _ hrule _, hid,
    ⟨diagnostic, hd, fun k entry hk => (hentries k entry hk).1⟩,
    htext, hknown, evaluation_of_validate.2 _ _ htext hknown⟩

end DatasetHosting
