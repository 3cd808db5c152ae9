import DatasetHosting.Proofs.Cluster.HostedDataCenter
import DatasetHosting.Proofs.Host.Agreement
import DatasetHosting.Proofs.Host.Numbers

/-!
# Proofs/Host/Standard — the standard catalogue serves every format from 7 on

The standard catalogue is used without being validated.  It is right all the same: its conditions look at
the format as a number, however many digits that has (`Rule.fits_of_format`), and what a rule selects is
open to the dataset (`Strategy.IsOpenTo`): it has nodes enough, takes the format and asks for no object
store.  So only the backend can make a formula of the standard catalogue fail.
-/

namespace DatasetHosting

open Condition (Comparison Spacing Token numberOf_toString)

variable {dataset : Dataset} {rule : Rule} {uuid : Uuid} {strategy : Strategy}
  {resolution : Resolution}

/-! ## Strategies that are open to a dataset -/

/-- **The strategy keeps something in an object store**, which a cluster may lack. -/
def Strategy.NeedsObjectStore : Strategy → Prop
  | dataCenter _ config _ => (Plan.ofConfig config).needsObjectStore = true
  | _ => False

/-- **A strategy that is open to a dataset**: nothing about the two stands in the way of a cluster. -/
structure Strategy.IsOpenTo (strategy : Strategy) (dataset : Dataset) : Prop where
  /-- There are nodes enough. -/
  feasible : strategy.IsFeasible
  /-- The dataset is not too old. -/
  accepted : ¬strategy.Refuses dataset
  /-- The object store is not missed. -/
  storeless : ¬strategy.NeedsObjectStore

namespace Formula

/-- A formula that fails behind its checks lacks an object store that it needs. -/
theorem needsObjectStore_of_concludes {backend after : Backend} {error : FormulaError}
    (h : Concludes backend dataset strategy (.error (.formula error)) after) :
    strategy.NeedsObjectStore := by
  cases h with
  | dataCenter hends =>
    cases hends with
    | unbound _ _ hmissing =>
      rw [Strategy.NeedsObjectStore, ← Bool.not_eq_false]
      intro hneeds
      obtain ⟨bindings, hbindings⟩ := exists_bindings_storageOf_iff.mpr (.inl hneeds)
      cases hbindings.symm.trans hmissing

/-- **Where the strategy is open to the dataset** only the backend can make the formula fail. -/
theorem provision_ne_formula (h : strategy.IsOpenTo dataset) (session : Session)
    (error : FormulaError) :
    ((Formula.mk dataset strategy).provision session).1 ≠ .error (.formula error) := by
  intro hfails
  have hends := provision_concludes (objection?_eq_none h.feasible h.accepted) session
  rw [hfails] at hends
  exact h.storeless (needsObjectStore_of_concludes hends)

end Formula

/-! ## The standard catalogue -/

namespace Catalogue

theorem matches_dataCenterRule :
    dataCenterRule.Matches dataset.attributes ↔ 8 ≤ dataset.format := by
  have hcondition : dataCenterRule.condition =
      some (Spacing.single.write "format" .greaterOrEqual (toString 8)) := by
    decide +kernel
  rw [Rule.matches_iff_fits, Rule.fits_of_format hcondition (Token.spelled_toString (by decide)),
    numberOf_toString, UInt32.le_iff_toNat_le]
  simp [Comparison.relates]

theorem matches_standaloneRule :
    standaloneRule.Matches dataset.attributes ↔ dataset.format = 7 := by
  have hcondition : standaloneRule.condition =
      some (Spacing.single.write "format" .equal (toString 7)) := by
    decide +kernel
  rw [Rule.matches_iff_fits, Rule.fits_of_format hcondition (Token.spelled_toString (by decide)),
    numberOf_toString, ← UInt32.toNat_inj]
  simp [Comparison.relates]
  omega

/-- Every format is in exactly one of three ranges. -/
theorem format_cases (dataset : Dataset) :
    (8 ≤ dataset.format ∧ dataset.format ≠ 7 ∧ ¬dataset.format ≤ 6) ∨
    (¬8 ≤ dataset.format ∧ dataset.format = 7 ∧ ¬dataset.format ≤ 6) ∨
    (¬8 ≤ dataset.format ∧ dataset.format ≠ 7 ∧ dataset.format ≤ 6) := by
  have height : (8 : UInt32).toNat = 8 := rfl
  have hseven : (7 : UInt32).toNat = 7 := rfl
  have hsix : (6 : UInt32).toNat = 6 := rfl
  rw [ne_eq, ← UInt32.toNat_inj, UInt32.le_iff_toNat_le, UInt32.le_iff_toNat_le]
  omega

theorem not_matches_dataCenterRule (h : dataset.format < 8) :
    ¬dataCenterRule.Matches dataset.attributes :=
  fun hmatches => UInt32.not_le.mpr h (matches_dataCenterRule.mp hmatches)

/-- Format 8 and newer: the first rule matches. -/
theorem resolve_standard_of_new (hid : parseIdentifier dataset.id = .ok uuid)
    (h : 8 ≤ dataset.format) : standard.resolve dataset =
      .ok ⟨"data-center", dataCenterRule.strategy, standard.diagnosticUpTo dataset 1 .success⟩ := by
  have hfirst : IsFirstMatch dataset.attributes standard.rules 0 dataCenterRule :=
    isFirstMatch_cons_zero (matches_dataCenterRule.mpr h)
  exact resolve_of_isFirstMatch hid hfirst

/-- Format 7: the second rule matches, and the first does not. -/
theorem resolve_standard_of_seven (hid : parseIdentifier dataset.id = .ok uuid)
    (h : dataset.format = 7) : standard.resolve dataset =
      .ok ⟨"standalone", standaloneRule.strategy, standard.diagnosticUpTo dataset 2 .success⟩ := by
  have hold : dataset.format < 8 := h ▸ by decide
  have hsecond : IsFirstMatch dataset.attributes standard.rules 1 standaloneRule :=
    isFirstMatch_cons_succ.mpr
      ⟨not_matches_dataCenterRule hold, isFirstMatch_cons_zero (matches_standaloneRule.mpr h)⟩
  exact resolve_of_isFirstMatch hid hsecond

/-- Older formats: neither rule matches. -/
theorem resolve_standard_of_old (hid : parseIdentifier dataset.id = .ok uuid)
    (h : dataset.format ≤ 6) : standard.resolve dataset =
      .error (.noMatchingRule (standard.diagnosticUpTo dataset 2 .noMatchingRule)) := by
  refine resolve_of_no_match hid ?_
  have hfirst := not_matches_dataCenterRule (UInt32.lt_of_le_of_lt h (by decide))
  have hsecond : ¬standaloneRule.Matches dataset.attributes := by
    intro hmatches
    rw [matches_standaloneRule.mp hmatches] at h
    exact absurd h (by decide)
  simp [standard, hfirst, hsecond]

theorem isOpenTo_dataCenterRule (h : 8 ≤ dataset.format) :
    dataCenterRule.strategy.IsOpenTo dataset where
  feasible := (by decide : Strategy.minNodes ≤ 2)
  accepted := by
    rintro ⟨least, ⟨⟩, hless⟩
    exact UInt32.not_lt.mpr h hless
  storeless := (by decide : ¬(Plan.ofConfig {}).needsObjectStore = true)

theorem isOpenTo_standaloneRule (h : dataset.format = 7) :
    standaloneRule.strategy.IsOpenTo dataset where
  feasible := trivial
  accepted := by
    rintro ⟨least, ⟨⟩, hless⟩
    exact UInt32.lt_irrefl _ (h ▸ hless)
  storeless := not_false

/-- **What the standard catalogue selects is open to the dataset.** -/
theorem isOpenTo_of_resolve_standard (h : standard.resolve dataset = .ok resolution) :
    resolution.strategy.IsOpenTo dataset := by
  cases hid : parseIdentifier dataset.id with
  | error reason =>
    rw [resolve_of_malformed hid] at h
    cases h
  | ok uuid =>
    rcases format_cases dataset with ⟨hnew, -⟩ | ⟨-, hseven, -⟩ | ⟨-, -, hold⟩
    · obtain rfl := Except.ok.inj ((resolve_standard_of_new hid hnew).symm.trans h)
      exact isOpenTo_dataCenterRule hnew
    · obtain rfl := Except.ok.inj ((resolve_standard_of_seven hid hseven).symm.trans h)
      exact isOpenTo_standaloneRule hseven
    · rw [resolve_standard_of_old hid hold] at h
      cases h

/-- **The standard catalogue is right on every format**, although nobody validates it: it selects by the three
ranges, and what it selects is never refused. -/
theorem standard_serves_formats :
    (∀ dataset uuid, parseIdentifier dataset.id = .ok uuid →
      ((∃ resolution, standard.resolve dataset = .ok resolution ∧
        resolution.ruleName = "data-center") ↔ 8 ≤ dataset.format) ∧
      ((∃ resolution, standard.resolve dataset = .ok resolution ∧
        resolution.ruleName = "standalone") ↔ dataset.format = 7) ∧
      ((∃ diagnostic, standard.resolve dataset = .error (.noMatchingRule diagnostic)) ↔
        dataset.format ≤ 6)) ∧
    ∀ dataset formula, standard.host dataset = .ok formula → ∀ session error,
      (formula.provision session).1 ≠ .error (.formula error) := by
  refine ⟨fun dataset uuid hid => ?_, fun dataset formula hhost session error => ?_⟩
  · rcases format_cases dataset with
      ⟨hnew, hseven, hold⟩ | ⟨hnew, hseven, hold⟩ | ⟨hnew, hseven, hold⟩
    · simp [resolve_standard_of_new hid hnew, hnew, hseven, hold]
    · simp [resolve_standard_of_seven hid hseven, hseven]
    · simp [resolve_standard_of_old hid hold, hnew, hseven, hold]
  · cases hres : standard.resolve dataset with
    | error cause =>
      rw [host_of_error hres] at hhost
      cases hhost
    | ok resolution =>
      obtain rfl := Except.ok.inj ((host_of_ok hres).symm.trans hhost)
      exact Formula.provision_ne_formula (isOpenTo_of_resolve_standard hres) session error

/-- The largest format has more digits than the numeral 8, and no bucket is missed. -/
theorem standard_serves_largest_format :
    let dataset : Dataset := { Dataset.formatEight with format := 4294967295 }
    parseIdentifier dataset.id = .ok ⟨"631c70d4084b455c9785b01068b9f07c".toList⟩ ∧
      (∃ resolution, standard.resolve dataset = .ok resolution ∧
        resolution.ruleName = "data-center") ∧
      ∃ formula, standard.host dataset = .ok formula ∧ ∀ error,
        (formula.provision ⟨{ scenario := { bucket := none } }, []⟩).1 ≠ .error (.formula error) := by
  intro dataset
  have hid : parseIdentifier dataset.id = .ok ⟨"631c70d4084b455c9785b01068b9f07c".toList⟩ := by
    decide +kernel
  obtain ⟨resolution, hres, hname⟩ :=
    (standard_serves_formats.1 dataset _ hid).1.mpr (by decide)
  exact ⟨hid, ⟨resolution, hres, hname⟩, _, host_of_ok hres,
    standard_serves_formats.2 dataset _ (host_of_ok hres) _⟩

end Catalogue

end DatasetHosting
