import DatasetHosting.Proofs.Condition.Composition
import DatasetHosting.Proofs.Host.Validation

/-!
# Proofs/Host/Composition — rules with composed conditions

Whoever writes a catalogue may take conditions that are valid and put them together as texts.  The composed
text is valid, and a rule that has it fits a dataset as the connective says of the parts
(`Rule.fits_composed`).
-/

namespace DatasetHosting

variable {rule : Rule} {attributes : Condition.Attributes} {source : String} {e : Condition.Expr}
  {value : Bool}

/-- The rule under another condition. -/
def Rule.withCondition (rule : Rule) (source : String) : Rule :=
  { rule with condition := some source }

/-- A rule fits as the tree of its condition says. -/
theorem Rule.fits_withCondition (hcompile : Condition.compile source = .ok e)
    (hvalue : e.eval attributes = .ok value) :
    (rule.withCondition source).fits attributes = .ok value :=
  Condition.holds_of_compile hcompile hvalue

/-- **Conditions compose as texts.**  Of valid texts, the text in parentheses, its negation, and the two
joined by a connective are valid; and over any dataset a rule has the value under them that negation,
conjunction and disjunction make of its values under the parts. -/
theorem Rule.fits_composed (source other : String) (hsource : Condition.validate source = .ok ())
    (hother : Condition.validate other = .ok ()) :
    (Condition.validate ("(" ++ source ++ ")") = .ok () ∧
      Condition.validate ("NOT (" ++ source ++ ")") = .ok () ∧
      Condition.validate ("(" ++ source ++ ") AND (" ++ other ++ ")") = .ok () ∧
      Condition.validate ("(" ++ source ++ ") OR (" ++ other ++ ")") = .ok ()) ∧
    ∀ (rule : Rule) (dataset : Dataset), ∃ value value' : Bool,
      (rule.withCondition source).fits dataset.attributes = .ok value ∧
      (rule.withCondition other).fits dataset.attributes = .ok value' ∧
      (rule.withCondition ("(" ++ source ++ ")")).fits dataset.attributes = .ok value ∧
      (rule.withCondition ("NOT (" ++ source ++ ")")).fits dataset.attributes = .ok (!value) ∧
      (rule.withCondition ("(" ++ source ++ ") AND (" ++ other ++ ")")).fits dataset.attributes =
        .ok (value && value') ∧
      (rule.withCondition ("(" ++ source ++ ") OR (" ++ other ++ ")")).fits dataset.attributes =
        .ok (value || value') := by
  refine ⟨Condition.validate_composed hsource hother, fun rule dataset => ?_⟩
  obtain ⟨e, hcompile, hknown⟩ := Condition.validate_eq_ok_iff.mp hsource
  obtain ⟨e', hcompile', hknown'⟩ := Condition.validate_eq_ok_iff.mp hother
  have hdefined := dataset.attributes_defines
  obtain ⟨value, hvalue⟩ := Condition.Expr.eval_of_defines fun name hname =>
    hdefined name (hknown name hname)
  obtain ⟨value', hvalue'⟩ := Condition.Expr.eval_of_defines fun name hname =>
    hdefined name (hknown' name hname)
  exact ⟨value, value',
    fits_withCondition hcompile hvalue,
    fits_withCondition hcompile' hvalue',
    fits_withCondition (Condition.compile_parentheses hcompile) hvalue,
    fits_withCondition (Condition.compile_not hcompile) (Condition.Expr.eval_not hvalue),
    fits_withCondition (Condition.compile_and hcompile hcompile') (Condition.Expr.eval_and hvalue hvalue'),
    fits_withCondition (Condition.compile_or hcompile hcompile') (Condition.Expr.eval_or hvalue hvalue')⟩

/-- A literal that looks like a seam, beside a negation. -/
theorem Rule.fits_composed_quoted :
    Condition.validate "format >= '8' OR region == ') AND ('" = .ok () ∧
      Condition.validate "NOT label == '8'" = .ok () ∧
      (Catalogue.standaloneRule.withCondition
        "(format >= '8' OR region == ') AND (') AND (NOT label == '8')").fits
          Dataset.formatEight.attributes = .ok true := by
  let source : Condition.Expr :=
    .or (.comparison .greaterOrEqual (.identifier "format") (.literal "8"))
      (.comparison .equal (.identifier "region") (.literal ") AND ("))
  let other : Condition.Expr := .not (.comparison .equal (.identifier "label") (.literal "8"))
  have hformat : Condition.IsName "format" := by decide +kernel
  have hregion : Condition.IsName "region" := by decide +kernel
  have hlabel : Condition.IsName "label" := by decide +kernel
  have hsource : source.IsPrintable :=
    ⟨⟨hformat, '\'', .inl rfl, by decide⟩, hregion, '\'', .inl rfl, by decide⟩
  have hother : other.IsPrintable := ⟨hlabel, '\'', .inl rfl, by decide⟩
  have hprint : source.print = "format >= '8' OR region == ') AND ('" := by decide +kernel
  have hprint' : other.print = "NOT label == '8'" := by decide +kernel
  have hcompile := (Condition.Expr.isPrint_print hsource).compile
  have hcompile' := (Condition.Expr.isPrint_print hother).compile
  rw [hprint] at hcompile
  rw [hprint'] at hcompile'
  have hvalid := Condition.validate_of_compile hcompile (by decide)
  have hvalid' := Condition.validate_of_compile hcompile' (by decide)
  have hvalue : source.eval Dataset.formatEight.attributes = .ok true := by cbv
  have hvalue' : other.eval Dataset.formatEight.attributes = .ok true := by cbv
  obtain ⟨-, hfits⟩ := Rule.fits_composed _ _ hvalid hvalid'
  obtain ⟨value, value', hleft, hright, -, -, hboth, -⟩ :=
    hfits Catalogue.standaloneRule Dataset.formatEight
  obtain rfl : value = true :=
    Except.ok.inj (hleft.symm.trans (fits_withCondition hcompile hvalue))
  obtain rfl : value' = true :=
    Except.ok.inj (hright.symm.trans (fits_withCondition hcompile' hvalue'))
  exact ⟨hvalid, hvalid', hboth⟩

end DatasetHosting
