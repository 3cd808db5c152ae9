import Mathlib
import DatasetHosting.Dataset.WellKnown
import DatasetHosting.Proofs.Host.Selection

/-!
# Proofs/Host/Resolution — what a dataset is resolved to

A dataset with a malformed identifier is refused before any rule is looked at.  Any other dataset gets the
strategy of the first rule that matches, and in either case a diagnostic that is aligned with the rules
(`Diagnostic.Reports`).
-/

namespace DatasetHosting

variable {catalogue : Catalogue} {dataset : Dataset} {rule : Rule} {i : Nat} {uuid : Uuid}

/-! ## Aligned diagnostics -/

/-- **A diagnostic that is aligned with the rules of a catalogue**: one entry for each, of which at most
the one at the chosen place is matched. -/
structure Diagnostic.Reports (diagnostic : Diagnostic) (catalogue : Catalogue) (dataset : Dataset)
    (chosen : Option Nat) : Prop where
  /-- It is about the catalogue. -/
  catalogueId : diagnostic.catalogueId = catalogue.id
  /-- It is about the dataset. -/
  datasetId : diagnostic.datasetId = dataset.id
  /-- There is exactly one entry for each rule, in order and under its name. -/
  names : diagnostic.rules.map (·.ruleName) = catalogue.rules.map (·.name)
  /-- The chosen entry is matched and no other is. -/
  matched_iff : ∀ k entry, diagnostic.rules[k]? = some entry →
    (entry.matched = true ↔ chosen = some k)
  /-- Up to the chosen place each entry shows its rule's own condition. -/
  lookedAt : ∀ k rule entry, catalogue.rules[k]? = some rule → diagnostic.rules[k]? = some entry →
    (∀ i, chosen = some i → k ≤ i) → entry.expression = rule.condition
  /-- Behind the chosen place all entries are skips, which show no condition. -/
  skipped : ∀ i k rule, chosen = some i → i < k → catalogue.rules[k]? = some rule →
    diagnostic.rules[k]? = some (.skipped rule.name)
  /-- The outcome says whether a rule was chosen. -/
  outcome : diagnostic.outcome = if chosen.isSome then .success else .noMatchingRule
  /-- The matched entry is found. -/
  matchedRule : diagnostic.matchedRule? = chosen.bind (diagnostic.rules[·]?)

/-- The diagnostic when looking stops behind `n` rules. -/
def Catalogue.diagnosticUpTo (catalogue : Catalogue) (dataset : Dataset) (n : Nat)
    (outcome : Outcome) : Diagnostic :=
  ⟨catalogue.id, dataset.id, entriesUpTo dataset.attributes catalogue.rules n, outcome⟩

theorem Catalogue.reports_of_isFirstMatch
    (h : IsFirstMatch dataset.attributes catalogue.rules i rule) :
    (catalogue.diagnosticUpTo dataset (i + 1) .success).Reports catalogue dataset (some i) := by
  have hi : (entriesUpTo dataset.attributes catalogue.rules (i + 1))[i]? =
      some (rule.verdict dataset.attributes) :=
    getElem?_entriesUpTo_of_lt (Nat.lt_succ_self i) h.getElem?_eq
  have matched_iff : ∀ (k : Nat) (entry : RuleDiagnostic),
      (entriesUpTo dataset.attributes catalogue.rules (i + 1))[k]? = some entry →
        (entry.matched = true ↔ some i = some k) := by
    intro k entry hk
    obtain ⟨other, ho, rfl⟩ := getElem?_entriesUpTo_eq_some hk
    rcases Nat.lt_trichotomy k i with hlt | rfl | hgt
    · have hno := h.earlier k hlt other ho
      rw [if_pos (Nat.lt_succ_of_lt hlt), Rule.verdict_matched_iff]
      simp [hno, Nat.ne_of_gt hlt]
    · obtain rfl := Option.some.inj (h.getElem?_eq.symm.trans ho)
      rw [if_pos (Nat.lt_succ_self k), Rule.verdict_matched_iff]
      simp [h.isMatch]
    · rw [if_neg (by omega)]
      simp [RuleDiagnostic.skipped, Nat.ne_of_lt hgt]
  refine ⟨rfl, rfl, map_ruleName_entriesUpTo, matched_iff, ?_, ?_, rfl, ?_⟩
  · intro k other entry ho hk hle
    have hlt := Nat.lt_succ_of_le (hle i rfl)
    rw [← Option.some.inj ((getElem?_entriesUpTo_of_lt hlt ho).symm.trans hk),
      Rule.verdict_expression]
  · intro i' k other hi' hlt ho
    obtain rfl := Option.some.inj hi'
    exact getElem?_entriesUpTo_of_le (Nat.succ_le_of_lt hlt) ho
  · obtain ⟨hlen, hget⟩ := List.getElem?_eq_some_iff.mp hi
    refine (List.find?_eq_some_iff_getElem.mpr ?_).trans hi.symm
    refine ⟨Rule.verdict_matched_iff.mpr h.isMatch, i, hlen, hget, fun j hj => ?_⟩
    have hno := matched_iff j _ (List.getElem?_eq_getElem (Nat.lt_trans hj hlen))
    simpa [diagnosticUpTo, Nat.ne_of_gt hj] using hno

/-- The matched entry of a report tells the chosen place. -/
theorem Catalogue.chosen_eq_of_reports {j : Nat} {outcome : Outcome}
    (h : IsFirstMatch dataset.attributes catalogue.rules j rule)
    (hrep : (catalogue.diagnosticUpTo dataset (j + 1) outcome).Reports catalogue dataset (some i)) :
    i = j := by
  have hj := hrep.matched_iff j _ (getElem?_entriesUpTo_of_lt (Nat.lt_succ_self j) h.getElem?_eq)
  exact Option.some.inj (hj.mp (Rule.verdict_matched_iff.mpr h.isMatch))

theorem Catalogue.reports_of_no_match
    (h : ∀ rule ∈ catalogue.rules, ¬ rule.Matches dataset.attributes) :
    (catalogue.diagnosticUpTo dataset catalogue.rules.length .noMatchingRule).Reports catalogue
      dataset none := by
  have unmatched : ∀ (k : Nat) (entry : RuleDiagnostic),
      (entriesUpTo dataset.attributes catalogue.rules catalogue.rules.length)[k]? = some entry →
        ¬ entry.matched = true := by
    intro k entry hk
    obtain ⟨other, ho, rfl⟩ := getElem?_entriesUpTo_eq_some hk
    rw [if_pos (List.getElem?_eq_some_iff.mp ho).1, Rule.verdict_matched_iff]
    exact h other (List.mem_of_getElem? ho)
  refine ⟨rfl, rfl, map_ruleName_entriesUpTo, ?_, ?_, ?_, rfl, ?_⟩
  · intro k entry hk
    simp [unmatched k entry hk]
  · intro k other entry ho hk _
    have hlt := (List.getElem?_eq_some_iff.mp ho).1
    rw [← Option.some.inj ((getElem?_entriesUpTo_of_lt hlt ho).symm.trans hk),
      Rule.verdict_expression]
  · intro i _ _ hi
    cases hi
  · refine List.find?_eq_none.mpr fun entry he => ?_
    obtain ⟨k, hk⟩ := List.mem_iff_getElem?.mp he
    exact unmatched k entry hk

/-! ## The three results -/

theorem Catalogue.resolve_of_malformed {reason : IdentifierError}
    (hid : parseIdentifier dataset.id = .error reason) :
    catalogue.resolve dataset = .error (.malformedIdentifier dataset.id reason) := by
  rw [Catalogue.resolve, Dataset.uuid, hid]
  rfl

theorem Catalogue.resolve_of_isFirstMatch (hid : parseIdentifier dataset.id = .ok uuid)
    (h : IsFirstMatch dataset.attributes catalogue.rules i rule) :
    catalogue.resolve dataset =
      .ok ⟨rule.name, rule.strategy, catalogue.diagnosticUpTo dataset (i + 1) .success⟩ := by
  rw [Catalogue.resolve, Dataset.uuid, hid, selectRule_of_isFirstMatch h]
  rfl

theorem Catalogue.resolve_of_no_match (hid : parseIdentifier dataset.id = .ok uuid)
    (h : ∀ rule ∈ catalogue.rules, ¬ rule.Matches dataset.attributes) :
    catalogue.resolve dataset = .error (.noMatchingRule
      (catalogue.diagnosticUpTo dataset catalogue.rules.length .noMatchingRule)) := by
  rw [Catalogue.resolve, Dataset.uuid, hid, selectRule_of_no_match h]
  rfl

/-- A dataset with a well-formed identifier has a first match or none, and is resolved accordingly. -/
theorem Catalogue.resolve_cases (catalogue : Catalogue)
    (hid : parseIdentifier dataset.id = .ok uuid) :
    (∃ i rule, IsFirstMatch dataset.attributes catalogue.rules i rule ∧
      catalogue.resolve dataset =
        .ok ⟨rule.name, rule.strategy, catalogue.diagnosticUpTo dataset (i + 1) .success⟩) ∨
    ((∀ rule ∈ catalogue.rules, ¬ rule.Matches dataset.attributes) ∧
      catalogue.resolve dataset = .error (.noMatchingRule
        (catalogue.diagnosticUpTo dataset catalogue.rules.length .noMatchingRule))) := by
  rcases exists_isFirstMatch_or dataset.attributes catalogue.rules with ⟨i, rule, h⟩ | hnone
  · exact .inl ⟨i, rule, h, resolve_of_isFirstMatch hid h⟩
  · exact .inr ⟨hnone, resolve_of_no_match hid hnone⟩

/-- The identifier alone decides whether a dataset is refused as malformed. -/
theorem Catalogue.resolve_eq_malformed_iff {id : String} {reason : IdentifierError} :
    catalogue.resolve dataset = .error (.malformedIdentifier id reason) ↔
      id = dataset.id ∧ parseIdentifier dataset.id = .error reason := by
  constructor
  · intro h
    cases hid : parseIdentifier dataset.id with
    | error reason' =>
      rw [resolve_of_malformed hid] at h
      cases h
      exact ⟨rfl, rfl⟩
    | ok uuid =>
      rcases catalogue.resolve_cases hid with ⟨i, rule, -, hres⟩ | ⟨-, hres⟩ <;>
        exact absurd (hres.symm.trans h) (by simp)
  · rintro ⟨rfl, hid⟩
    exact resolve_of_malformed hid

/-- **Resolution is the first match, with an aligned diagnostic.**  The identifier alone decides whether
the dataset is refused as malformed.  If it is well formed, rule `i` is chosen exactly if it is the first
that matches, and no rule is chosen exactly if none matches. -/
theorem Catalogue.resolve_first_match (catalogue : Catalogue) (dataset : Dataset) :
    (∀ id reason, catalogue.resolve dataset = .error (.malformedIdentifier id reason) ↔
      id = dataset.id ∧ parseIdentifier dataset.id = .error reason) ∧
    ∀ uuid, parseIdentifier dataset.id = .ok uuid →
      (∀ i rule, catalogue.rules[i]? = some rule →
        (IsFirstMatch dataset.attributes catalogue.rules i rule ↔
          ∃ diagnostic, catalogue.resolve dataset = .ok ⟨rule.name, rule.strategy, diagnostic⟩ ∧
            diagnostic.Reports catalogue dataset (some i))) ∧
      ((∀ rule ∈ catalogue.rules, ¬ rule.Matches dataset.attributes) ↔
        ∃ diagnostic, catalogue.resolve dataset = .error (.noMatchingRule diagnostic) ∧
          diagnostic.Reports catalogue dataset none) := by
  refine ⟨fun _ _ => resolve_eq_malformed_iff, fun uuid hid => ⟨fun i rule hrule => ⟨?_, ?_⟩, ?_, ?_⟩⟩
  · exact fun h => ⟨_, resolve_of_isFirstMatch hid h, reports_of_isFirstMatch h⟩
  · rintro ⟨diagnostic, hres, hrep⟩
    rcases catalogue.resolve_cases hid with ⟨j, first, hj, hres'⟩ | ⟨-, hres'⟩
    · simp only [hres', Except.ok.injEq, Resolution.mk.injEq] at hres
      obtain ⟨-, -, rfl⟩ := hres
      obtain rfl : i = j := chosen_eq_of_reports hj hrep
      obtain rfl := Option.some.inj (hj.getElem?_eq.symm.trans hrule)
      exact hj
    · exact absurd (hres'.symm.trans hres) (by simp)
  · exact fun h => ⟨_, resolve_of_no_match hid h, reports_of_no_match h⟩
  · rintro ⟨diagnostic, hres, -⟩
    rcases catalogue.resolve_cases hid with ⟨j, first, -, hres'⟩ | ⟨hnone, -⟩
    · exact absurd (hres'.symm.trans hres) (by simp)
    · exact hnone

set_option maxRecDepth 4000 in
/-- A dataset of format 7 falls to the second rule of the standard catalogue. -/
theorem Catalogue.standard_resolves_formatSeven :
    parseIdentifier Dataset.formatSeven.id = .ok ⟨"d4684761116b49ae9ccee45cecdcae2a".toList⟩ ∧
      standard.rules[1]? = some standaloneRule ∧
      IsFirstMatch Dataset.formatSeven.attributes standard.rules 1 standaloneRule ∧
      ∃ diagnostic, standard.resolve Dataset.formatSeven =
          .ok ⟨"standalone", .standalone (some 7), diagnostic⟩ ∧
        diagnostic.Reports standard Dataset.formatSeven (some 1) := by
  have hid : parseIdentifier Dataset.formatSeven.id =
      .ok ⟨"d4684761116b49ae9ccee45cecdcae2a".toList⟩ := by cbv
  have hfirst : dataCenterRule.fits Dataset.formatSeven.attributes = .ok false := by cbv
  have hsecond : standaloneRule.fits Dataset.formatSeven.attributes = .ok true := by cbv
  have hmatch : IsFirstMatch Dataset.formatSeven.attributes standard.rules 1 standaloneRule := by
    refine isFirstMatch_cons_succ.mpr ⟨?_, isFirstMatch_cons_zero (Rule.matches_iff_fits.mpr hsecond)⟩
    rw [Rule.matches_iff_fits, hfirst]
    simp
  exact ⟨hid, rfl, hmatch,
    (((standard.resolve_first_match Dataset.formatSeven).2 _ hid).1 1 standaloneRule rfl).mp hmatch⟩

end DatasetHosting
