import DatasetHosting.Proofs.Host.Validation

/-!
# Proofs/Host/Offence — validation reports the first offence

A rule offends (`Rule.Offends`) if an earlier rule has its name, its condition cannot be used, or its strategy
cannot be carried out.  Validation walks over the rules with the names it has seen, and stops at the first
rule that offends (`Catalogue.IsFirstOffender`) with the first of its offences in that order
(`Rule.Offence`).
-/

namespace DatasetHosting

open Text (isBlank isBlankText)

variable {rule : Rule} {rules : List Rule} {earlier : List String} {error : CatalogueError}

/-! ## Offences of a rule -/

/-- **The condition can be used**: it compiles, and mentions nothing but what datasets have. -/
def Rule.HasUsableCondition (rule : Rule) : Prop :=
  ∀ source, rule.condition = some source → ∃ e, Condition.compile source = .ok e ∧
    ∀ name ∈ e.identifiers, name ∈ ["dataset", "label", "format", "region"]

/-- **The strategy can be carried out**: a data center has two nodes or more, and the address of a server
elsewhere has a character that is not white space. -/
def Strategy.IsUsable : Strategy → Prop
  | standalone _ => True
  | dataCenter nodes _ _ => 2 ≤ nodes
  | external address => ∃ c ∈ address.toList, isBlank c = false

namespace Rule

/-- **The rule offends** behind rules of the given names. -/
def Offends (earlier : List String) (rule : Rule) : Prop :=
  rule.name ∈ earlier ∨ ¬rule.HasUsableCondition ∨ ¬rule.strategy.IsUsable

/-- **The first offence of a rule**, as it is reported: its name comes before its condition, and that before
its strategy. -/
inductive Offence (earlier : List String) (rule : Rule) : CatalogueError → Prop where
  | duplicate (hname : rule.name ∈ earlier) : Offence earlier rule (.duplicateRule rule.name)
  | condition {source : String} {fault : Condition.TextError} (hname : rule.name ∉ earlier)
      (hsource : rule.condition = some source) (hunusable : ¬rule.HasUsableCondition)
      (hfault : Condition.validate source = .error fault) :
      Offence earlier rule (.invalidCondition rule.name fault)
  | nodes {nodes : UInt64} {config : StorageConfig} {minFormat : Option UInt32}
      (hname : rule.name ∉ earlier) (husable : rule.HasUsableCondition)
      (hstrategy : rule.strategy = .dataCenter nodes config minFormat) (hfew : nodes < 2) :
      Offence earlier rule (.tooFewNodes rule.name nodes)
  | address {address : String} (hname : rule.name ∉ earlier) (husable : rule.HasUsableCondition)
      (hstrategy : rule.strategy = .external address)
      (hblank : ∀ c ∈ address.toList, isBlank c = true) :
      Offence earlier rule (.emptyAddress rule.name)

/-- Every offence makes its rule one that offends. -/
theorem Offence.offends (h : rule.Offence earlier error) : rule.Offends earlier := by
  cases h with
  | duplicate hname => exact .inl hname
  | condition _ _ hunusable _ => exact .inr (.inl hunusable)
  | nodes _ _ hstrategy hfew =>
    refine .inr (.inr ?_)
    rw [hstrategy]
    exact UInt64.not_le.mpr hfew
  | address _ _ hstrategy hblank =>
    refine .inr (.inr ?_)
    rw [hstrategy]
    rintro ⟨c, hc, hvisible⟩
    rw [hblank c hc] at hvisible
    cases hvisible

/-! ## The checks of a rule -/

/-- The check of conditions passes those that can be evaluated. -/
theorem checkCondition_eq_ok_iff_usable :
    rule.checkCondition = .ok () ↔ rule.HasUsableCondition := by
  rw [checkCondition_eq_ok_iff]
  simp only [Condition.validate_eq_ok_iff]
  rfl

/-- It refuses a condition with the fault found in it, under the name of its rule. -/
theorem checkCondition_eq_error_iff :
    rule.checkCondition = .error error ↔ ∃ source fault, rule.condition = some source ∧
      Condition.validate source = .error fault ∧ error = .invalidCondition rule.name fault := by
  rw [checkCondition]
  cases rule.condition with
  | none => simp
  | some source =>
    refine Condition.mapError_eq_error_iff.trans ?_
    simp [eq_comm]

theorem checkStrategy_eq_ok_iff_usable :
    rule.checkStrategy = .ok () ↔ rule.strategy.IsUsable := by
  rw [checkStrategy]
  cases rule.strategy with
  | standalone minFormat => simp [Strategy.IsUsable]
  | dataCenter nodes config minFormat =>
    rw [Strategy.IsUsable, ← UInt64.not_lt]
    by_cases hfew : nodes < 2 <;> simp [Strategy.minNodes, hfew]
  | external address => simp [Strategy.IsUsable, isBlankText]

/-- **A rule passes its check unless it offends.** -/
theorem check_eq_ok_iff_not_offends :
    rule.check earlier = .ok () ↔ ¬rule.Offends earlier := by
  rw [check_eq_ok_iff, checkCondition_eq_ok_iff_usable, checkStrategy_eq_ok_iff_usable, Offends]
  simp only [not_or, not_not]

/-- A name used before is refused whatever else is wrong with the rule. -/
theorem check_of_mem (h : rule.name ∈ earlier) :
    rule.check earlier = .error (.duplicateRule rule.name) := by
  rw [check, if_pos h]
  rfl

theorem check_of_notMem (h : rule.name ∉ earlier) :
    rule.check earlier = rule.checkCondition >>= fun _ => rule.checkStrategy := by
  rw [check, if_neg h]

/-- A strategy fails for its nodes or for its address. -/
theorem offence_of_checkStrategy (hname : rule.name ∉ earlier) (husable : rule.HasUsableCondition)
    (h : rule.checkStrategy = .error error) : rule.Offence earlier error := by
  rw [checkStrategy] at h
  cases hstrategy : rule.strategy with
  | standalone minFormat =>
    rw [hstrategy] at h
    cases h
  | dataCenter nodes config minFormat =>
    rw [hstrategy] at h
    by_cases hfew : nodes < 2
    · obtain rfl := Except.error.inj ((if_pos hfew).symm.trans h)
      exact .nodes hname husable hstrategy hfew
    · cases (if_neg hfew).symm.trans h
  | external address =>
    rw [hstrategy] at h
    by_cases hblank : isBlankText address = true
    · obtain rfl := Except.error.inj ((if_pos hblank).symm.trans h)
      exact .address hname husable hstrategy (List.all_eq_true.mp hblank)
    · cases (if_neg hblank).symm.trans h

/-- **A rule is reported for its first offence.** -/
theorem offence_of_check (h : rule.check earlier = .error error) : rule.Offence earlier error := by
  by_cases hname : rule.name ∈ earlier
  · rw [check_of_mem hname] at h
    obtain rfl := Except.error.inj h
    exact .duplicate hname
  rw [check_of_notMem hname] at h
  cases hcondition : rule.checkCondition with
  | error cause =>
    rw [hcondition] at h
    obtain rfl := Except.error.inj h
    obtain ⟨source, fault, hsource, hfault, rfl⟩ := checkCondition_eq_error_iff.mp hcondition
    refine .condition hname hsource (fun husable => ?_) hfault
    rw [checkCondition_eq_ok_iff_usable.mpr husable] at hcondition
    cases hcondition
  | ok =>
    rw [hcondition] at h
    exact offence_of_checkStrategy hname (checkCondition_eq_ok_iff_usable.mp hcondition) h

/-- Conversely the check finds the offence that comes first. -/
theorem check_of_offence (h : rule.Offence earlier error) : rule.check earlier = .error error := by
  cases h with
  | duplicate hname => exact check_of_mem hname
  | condition hname hsource hunusable hfault =>
    rw [check_of_notMem hname, checkCondition_eq_error_iff.mpr ⟨_, _, hsource, hfault, rfl⟩]
    rfl
  | nodes hname husable hstrategy hfew =>
    rw [check_of_notMem hname, checkCondition_eq_ok_iff_usable.mpr husable, checkStrategy, hstrategy]
    exact if_pos hfew
  | address hname husable hstrategy hblank =>
    rw [check_of_notMem hname, checkCondition_eq_ok_iff_usable.mpr husable, checkStrategy, hstrategy]
    exact if_pos (List.all_eq_true.mpr hblank)

end Rule

/-! ## The walk over the rules -/

namespace Catalogue

/-- The names that the walk has seen before a place, if it starts out with some. -/
def namesBefore (earlier : List String) (rules : List Rule) (i : Nat) : List String :=
  ((rules.take i).map (·.name)).reverse ++ earlier

theorem namesBefore_cons_succ (earlier : List String) (first : Rule) (rest : List Rule) (i : Nat) :
    namesBefore earlier (first :: rest) (i + 1) = namesBefore (first.name :: earlier) rest i := by
  simp [namesBefore]

/-- **The rule at place `i` is the first that offends**, and is reported so. -/
structure IsFirstOffender (earlier : List String) (rules : List Rule) (i : Nat) (rule : Rule)
    (error : CatalogueError) : Prop where
  /-- It stands at the place. -/
  getElem?_eq : rules[i]? = some rule
  /-- It offends, and the error is for its first offence. -/
  offence : rule.Offence (namesBefore earlier rules i) error
  /-- No rule before it offends. -/
  blameless : ∀ j < i, ∀ other, rules[j]? = some other →
    ¬other.Offends (namesBefore earlier rules j)

variable {i : Nat} {first : Rule} {rest : List Rule}

theorem isFirstOffender_cons_zero (h : rule.Offence earlier error) :
    IsFirstOffender earlier (rule :: rest) 0 rule error :=
  ⟨rfl, h, fun _ hj => absurd hj (Nat.not_lt_zero _)⟩

theorem isFirstOffender_cons_succ :
    IsFirstOffender earlier (first :: rest) (i + 1) rule error ↔
      ¬first.Offends earlier ∧ IsFirstOffender (first.name :: earlier) rest i rule error := by
  constructor
  · rintro ⟨hget, hoffence, hbefore⟩
    rw [namesBefore_cons_succ] at hoffence
    refine ⟨hbefore 0 (Nat.succ_pos i) first rfl, hget, hoffence, fun j hj other ho => ?_⟩
    have hblameless := hbefore (j + 1) (Nat.succ_lt_succ hj) other ho
    rwa [namesBefore_cons_succ] at hblameless
  · rintro ⟨hfirst, hget, hoffence, hbefore⟩
    refine ⟨hget, namesBefore_cons_succ .. ▸ hoffence, fun j hj other ho => ?_⟩
    cases j with
    | zero =>
      obtain rfl := Option.some.inj ho
      exact hfirst
    | succ j =>
      rw [namesBefore_cons_succ]
      exact hbefore j (Nat.lt_of_succ_lt_succ hj) other ho

/-- The first rule that fails its check decides. -/
theorem checkRules_of_check_error (h : first.check earlier = .error error) :
    checkRules earlier (first :: rest) = .error error := by
  rw [checkRules, h]
  rfl

/-- A rule that passes leaves its name to those behind it. -/
theorem checkRules_of_check_ok (h : first.check earlier = .ok ()) :
    checkRules earlier (first :: rest) = checkRules (first.name :: earlier) rest := by
  rw [checkRules, h]
  rfl

/-- **The walk stops at the first rule that offends.** -/
theorem checkRules_eq_error_iff :
    checkRules earlier rules = .error error ↔
      ∃ i rule, IsFirstOffender earlier rules i rule error := by
  induction rules generalizing earlier with
  | nil =>
    refine iff_of_false (by rintro ⟨⟩) ?_
    rintro ⟨i, rule, ⟨⟩, -, -⟩
  | cons first rest ih =>
    cases hcheck : first.check earlier with
    | error cause =>
      have hoffence := Rule.offence_of_check hcheck
      rw [checkRules_of_check_error hcheck]
      constructor
      · intro h
        obtain rfl := Except.error.inj h
        exact ⟨0, first, isFirstOffender_cons_zero hoffence⟩
      · rintro ⟨i, rule, h⟩
        cases i with
        | zero =>
          obtain rfl := Option.some.inj h.getElem?_eq
          rw [← hcheck]
          exact Rule.check_of_offence h.offence
        | succ i => exact absurd hoffence.offends (isFirstOffender_cons_succ.mp h).1
    | ok =>
      have hblameless := Rule.check_eq_ok_iff_not_offends.mp hcheck
      rw [checkRules_of_check_ok hcheck, ih]
      constructor
      · rintro ⟨i, rule, h⟩
        exact ⟨i + 1, rule, isFirstOffender_cons_succ.mpr ⟨hblameless, h⟩⟩
      · rintro ⟨i, rule, h⟩
        cases i with
        | zero =>
          obtain rfl := Option.some.inj h.getElem?_eq
          exact absurd h.offence.offends hblameless
        | succ i => exact ⟨i, rule, (isFirstOffender_cons_succ.mp h).2⟩

/-- **The walk ends** if the names are new and pairwise distinct, and conditions and strategies can be used. -/
theorem checkRules_eq_ok_iff :
    checkRules earlier rules = .ok () ↔
      (∀ rule ∈ rules, rule.name ∉ earlier) ∧ (rules.map (·.name)).Nodup ∧
        ∀ rule ∈ rules, rule.HasUsableCondition ∧ rule.strategy.IsUsable := by
  induction rules generalizing earlier with
  | nil => simp [checkRules]
  | cons first rest ih =>
    rw [checkRules_cons_eq_ok_iff, Rule.check_eq_ok_iff, Rule.checkCondition_eq_ok_iff_usable,
      Rule.checkStrategy_eq_ok_iff_usable, ih, List.forall_mem_cons, List.forall_mem_cons, List.map_cons,
      List.nodup_cons]
    have hnew : (∀ rule ∈ rest, rule.name ∉ first.name :: earlier) ↔
        first.name ∉ rest.map (·.name) ∧ ∀ rule ∈ rest, rule.name ∉ earlier := by
      simp only [List.mem_cons, not_or, List.mem_map, not_exists, not_and]
      exact forall₂_and
    rw [hnew]
    tauto

/-! ## Catalogues -/

/-- **Validation decides exactly the conditions on a catalogue**, and reports the first offence. -/
theorem validate_first_offence (catalogue : Catalogue) :
    (catalogue.validate = .ok () ↔
      catalogue.rules ≠ [] ∧ (catalogue.rules.map (·.name)).Nodup ∧
        ∀ rule ∈ catalogue.rules, rule.HasUsableCondition ∧ rule.strategy.IsUsable) ∧
    ∀ error, catalogue.validate = .error error ↔
      (catalogue.rules = [] ∧ error = .noRules catalogue.id) ∨
        ∃ i rule, IsFirstOffender [] catalogue.rules i rule error := by
  rw [validate]
  cases catalogue.rules with
  | nil =>
    refine ⟨iff_of_false (by rintro ⟨⟩) fun h => h.1 rfl, fun error => ?_⟩
    constructor
    · intro h
      exact .inl ⟨rfl, (Except.error.inj h).symm⟩
    · rintro (⟨-, rfl⟩ | ⟨i, rule, ⟨⟩, -, -⟩)
      rfl
  | cons first rest =>
    have hsome : first :: rest ≠ [] := List.cons_ne_nil _ _
    refine ⟨checkRules_eq_ok_iff.trans ?_, fun error => checkRules_eq_error_iff.trans ?_⟩
    · simp only [List.not_mem_nil, not_false_eq_true, implies_true, true_and, ne_eq, hsome]
    · simp only [hsome, false_and, false_or]

/-- A repeated name is reported although the condition does not compile either. -/
example : Catalogue.validate ⟨"twice", none, [⟨"all", none, .standalone none⟩,
    ⟨"all", some "format ==", .standalone none⟩]⟩ = .error (.duplicateRule "all") := by
  decide

end Catalogue

end DatasetHosting
