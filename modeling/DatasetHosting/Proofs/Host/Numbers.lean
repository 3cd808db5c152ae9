import DatasetHosting.Proofs.Condition.Comparison
import DatasetHosting.Proofs.Host.Composition

/-!
# Proofs/Host/Numbers — conditions that compare an attribute with a number

Attributes and literals reach a comparison as texts and are read there as numbers of 64 bits, with the order
of texts to fall back on.  A literal is never too large, as the lexer refuses it otherwise, and neither is a
format, so rules compare formats as numbers (`Rule.fits_format_number`).  A label is any text, and one that
writes a larger number is compared as a text: the order of the two is then right only where the texts happen
to have it (`Rule.fits_label_number`).
-/

namespace DatasetHosting

open Condition (Comparison IsNumeral Operand Spacing Token numberOf tokenize)
open Text (maxInt64 readInt64? readInt64?_toString)

variable {rule : Rule} {dataset : Dataset} {attributes : Condition.Attributes} {sign : Comparison}

/-- **A rule that compares two operands** has the value of the comparison, however it is spaced. -/
theorem Rule.fits_spaced {spacing : Spacing} {t u : Token} {left right : Operand}
    {l r value value' : String} (hcondition : rule.condition = some (spacing.write l sign r))
    (ht : t.Denotes left) (hl : t.Spelled l.toList) (hu : u.Denotes right) (hr : u.Spelled r.toList)
    (hleft : left.value attributes = .ok value) (hright : right.value attributes = .ok value') :
    rule.fits attributes = .ok (sign.holds (Condition.compareValues value value')) := by
  rw [Rule.fits, hcondition]
  exact Condition.holds_of_compile (Condition.compile_spaced spacing ht hl hu hr)
    (Condition.Expr.eval_comparison hleft hright)

/-! ## Formats -/

theorem isName_format : Condition.IsName "format" := by
  decide +kernel

theorem Dataset.value_format (dataset : Dataset) :
    (Operand.identifier "format").value dataset.attributes = .ok (toString dataset.format.toNat) :=
  Condition.Operand.value_of_lookup rfl

theorem Dataset.readInt64?_format (dataset : Dataset) :
    readInt64? (toString dataset.format.toNat).toList = some (dataset.format.toNat : Int) := by
  refine readInt64?_toString ?_
  have hsize : dataset.format.toNat < UInt32.size := dataset.format.toNat_lt_size
  simp only [maxInt64, UInt32.size] at hsize ⊢
  omega

/-- A rule that compares the format with a number compares the numbers. -/
theorem Rule.fits_of_format {spacing : Spacing} {digits : String}
    (hcondition : rule.condition = some (spacing.write "format" sign digits))
    (hdigits : (Token.number digits).Spelled digits.toList) (dataset : Dataset) :
    rule.fits dataset.attributes = .ok (sign.relates dataset.format.toNat (numberOf digits)) := by
  rw [Rule.fits_spaced hcondition (.identifier _) (.identifier isName_format) (.number _) hdigits
    dataset.value_format rfl, ← sign.holds_compare, Condition.compareValues_of_read
    dataset.readInt64?_format (Condition.readInt64?_of_spelled hdigits)]

/-- …and so it does if the number comes first. -/
theorem Rule.fits_of_number {spacing : Spacing} {digits : String}
    (hcondition : rule.condition = some (spacing.write digits sign "format"))
    (hdigits : (Token.number digits).Spelled digits.toList) (dataset : Dataset) :
    rule.fits dataset.attributes = .ok (sign.relates (numberOf digits) dataset.format.toNat) := by
  rw [Rule.fits_spaced hcondition (.number _) hdigits (.identifier _) (.identifier isName_format) rfl
    dataset.value_format, ← sign.holds_compare, Condition.compareValues_of_read
    (Condition.readInt64?_of_spelled hdigits) dataset.readInt64?_format]

/-- **Rules compare formats as numbers**: with every number that the lexer admits, zeros in front or not, on
either side of every sign, with any white space or none. -/
theorem Rule.fits_format_number (rule : Rule) (dataset : Dataset) (sign : Comparison)
    (spacing : Spacing) {digits : String} (hdigits : tokenize digits = .ok [.number digits]) :
    (rule.withCondition (spacing.write "format" sign digits)).fits dataset.attributes =
        .ok (sign.relates dataset.format.toNat (numberOf digits)) ∧
      (rule.withCondition (spacing.write digits sign "format")).fits dataset.attributes =
        .ok (sign.relates (numberOf digits) dataset.format.toNat) := by
  have hspelled := Condition.spelled_of_tokenize_number hdigits
  exact ⟨Rule.fits_of_format rfl hspelled dataset, Rule.fits_of_number rfl hspelled dataset⟩

/-- The largest number, behind zeros, and without any space. -/
theorem Rule.fits_format_largest_number :
    tokenize "009223372036854775807" = .ok [.number "009223372036854775807"] ∧
      (Catalogue.standaloneRule.withCondition "format<009223372036854775807").fits
        Dataset.formatEight.attributes = .ok true ∧
      (Catalogue.standaloneRule.withCondition "009223372036854775807<format").fits
        Dataset.formatEight.attributes = .ok false := by
  have hdigits : tokenize "009223372036854775807" = .ok [.number "009223372036854775807"] :=
    Condition.tokenize_of_spelled_number (.number (by decide) (List.all_eq_true.mp rfl) (by decide))
  obtain ⟨hformat, hnumber⟩ := Rule.fits_format_number Catalogue.standaloneRule Dataset.formatEight
    .less ⟨"", "", "", "", by decide⟩ hdigits
  exact ⟨hdigits, hformat, hnumber⟩

/-! ## Labels -/

theorem isName_label : Condition.IsName "label" := by
  decide +kernel

theorem Dataset.value_label (dataset : Dataset) :
    (Operand.identifier "label").value dataset.attributes = .ok dataset.label :=
  Condition.Operand.value_of_lookup rfl

/-- A rule that compares a numeral in the label with a number. -/
theorem Rule.fits_of_label {spacing : Spacing} {digits : String}
    (hcondition : rule.condition = some (spacing.write "label" sign digits))
    (hdigits : (Token.number digits).Spelled digits.toList) (dataset : Dataset)
    (hlabel : IsNumeral dataset.label) :
    rule.fits dataset.attributes = .ok (sign.holds
      (if numberOf dataset.label ≤ maxInt64 then compare (numberOf dataset.label) (numberOf digits)
        else compare dataset.label digits)) := by
  rw [Rule.fits_spaced hcondition (.identifier _) (.identifier isName_label) (.number _) hdigits
    dataset.value_label rfl,
    Condition.compareValues_of_isNumeral hlabel (Condition.readInt64?_of_spelled hdigits)]

/-- **Where rules compare a label as a number.**  A condition that compares a numeral with a number has a
value.  It is right if it does not ask for the order, or if the numeral writes a number of 64 bits; a larger
one is compared as a text, and the value is right just if the text is greater as well. -/
theorem Rule.fits_label_number (rule : Rule) (dataset : Dataset) (sign : Comparison)
    (spacing : Spacing) {digits : String} (hlabel : IsNumeral dataset.label)
    (hdigits : tokenize digits = .ok [.number digits]) :
    ∃ value, (rule.withCondition (spacing.write "label" sign digits)).fits dataset.attributes =
        .ok value ∧
      (value = sign.relates (numberOf dataset.label) (numberOf digits) ↔
        sign = .equal ∨ sign = .notEqual ∨ numberOf dataset.label ≤ maxInt64 ∨
          digits < dataset.label) := by
  have hspelled := Condition.spelled_of_tokenize_number hdigits
  have hliteral := Condition.numberOf_le_of_spelled hspelled
  refine ⟨_, Rule.fits_of_label rfl hspelled dataset hlabel, ?_⟩
  rw [← sign.holds_compare]
  by_cases hbound : numberOf dataset.label ≤ maxInt64
  · rw [if_pos hbound]
    exact iff_of_true rfl (.inr (.inr (.inl hbound)))
  · have hgreater : compare (numberOf dataset.label) (numberOf digits) = .gt :=
      Int.compare_eq_gt.mpr (by omega)
    have hdiffer : compare dataset.label digits ≠ .eq := by
      rw [ne_eq, compare_eq_iff_eq]
      rintro rfl
      exact hbound hliteral
    rw [if_neg hbound, hgreater, Comparison.holds_eq_holds_gt_iff hdiffer, compare_gt_iff_gt]
    simp [hbound]

/-- A label beyond 64 bits is said to be greater than `05`, as its text is greater too. -/
theorem Rule.fits_label_greater_text :
    let dataset : Dataset := { Dataset.formatEight with label := "10000000000000000000" }
    IsNumeral dataset.label ∧ tokenize "05" = .ok [.number "05"] ∧
      (Catalogue.standaloneRule.withCondition "label > 05").fits dataset.attributes = .ok true := by
  intro dataset
  have hlabel : IsNumeral "10000000000000000000" := ⟨by decide, List.all_eq_true.mp rfl⟩
  have hdigits : tokenize "05" = .ok [.number "05"] :=
    Condition.tokenize_of_spelled_number (.number (by decide) (List.all_eq_true.mp rfl) (by decide))
  obtain ⟨value, hfits, hright⟩ :=
    Rule.fits_label_number Catalogue.standaloneRule dataset .greater .single hlabel hdigits
  have hless : "05" < "10000000000000000000" := by decide
  have hgreater : Comparison.greater.relates (numberOf dataset.label) (numberOf "05") = true := by
    decide
  obtain rfl : value = true := (hright.mpr (.inr (.inr (.inr hless)))).trans hgreater
  exact ⟨hlabel, hdigits, hfits⟩

/-- …but not to be greater than `5`, although its number is. -/
theorem Rule.fits_label_smaller_text :
    let dataset : Dataset := { Dataset.formatEight with label := "10000000000000000000" }
    IsNumeral dataset.label ∧ tokenize "5" = .ok [.number "5"] ∧
      Comparison.greater.relates (numberOf dataset.label) (numberOf "5") = true ∧
      (Catalogue.standaloneRule.withCondition "label > 5").fits dataset.attributes = .ok false := by
  intro dataset
  have hlabel : IsNumeral "10000000000000000000" := ⟨by decide, List.all_eq_true.mp rfl⟩
  have hspelled : (Token.number "5").Spelled "5".toList :=
    .number (by decide) (List.all_eq_true.mp rfl) (by decide)
  have hcondition : (Catalogue.standaloneRule.withCondition "label > 5").condition =
      some (Spacing.single.write "label" .greater "5") := by
    decide +kernel
  have hbound : ¬numberOf dataset.label ≤ maxInt64 := by decide
  have htexts : compare dataset.label "5" = .lt := compare_lt_iff_lt.mpr (by decide)
  have hfits := Rule.fits_of_label hcondition hspelled dataset hlabel
  rw [if_neg hbound, htexts] at hfits
  exact ⟨hlabel, Condition.tokenize_of_spelled_number hspelled, by decide, hfits⟩

end DatasetHosting
