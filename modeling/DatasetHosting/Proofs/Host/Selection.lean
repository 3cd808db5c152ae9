import DatasetHosting.Host.Resolution

/-!
# Proofs/Host/Selection — the first rule that matches, and the report about it

`selectRule` walks the rules once and writes an entry for each.  Its two answers in closed form:

* `selectRule_of_isFirstMatch` — the rule chosen is the first that matches, and the entries are the
  verdicts up to it, then skips;
* `selectRule_of_no_match` — without a match every entry is a verdict.

Both are one list, `entriesUpTo`, read at the place where looking stopped.
-/

namespace DatasetHosting

open Condition (Attributes)

variable {attributes : Attributes} {rules : List Rule} {rule : Rule} {i n : Nat}

/-! ## Rules that match -/

/-- A rule matches if it has no condition, or if its condition is true of the attributes. -/
def Rule.Matches (rule : Rule) (attributes : Attributes) : Prop :=
  rule.condition = none ∨
    ∃ source, rule.condition = some source ∧ Condition.holds attributes source = .ok true

/-- A rule matches exactly if its condition holds; one without a condition always does. -/
theorem Rule.matches_iff_fits : rule.Matches attributes ↔ rule.fits attributes = .ok true := by
  rw [Rule.Matches, Rule.fits]
  cases rule.condition <;> simp

/-- **The rule at place `i` is the first that matches.** -/
structure IsFirstMatch (attributes : Attributes) (rules : List Rule) (i : Nat) (rule : Rule) :
    Prop where
  /-- It stands at the place. -/
  getElem?_eq : rules[i]? = some rule
  /-- It matches. -/
  isMatch : rule.Matches attributes
  /-- No rule before it does. -/
  earlier : ∀ j < i, ∀ other, rules[j]? = some other → ¬ other.Matches attributes

/-- A matching rule in front is the first match, -/
theorem isFirstMatch_cons_zero {rest : List Rule} (h : rule.Matches attributes) :
    IsFirstMatch attributes (rule :: rest) 0 rule :=
  ⟨rfl, h, fun _ hj => absurd hj (Nat.not_lt_zero _)⟩

/-- and behind a rule in front there is a first match exactly if that rule does not match. -/
theorem isFirstMatch_cons_succ {rest : List Rule} {first : Rule} :
    IsFirstMatch attributes (first :: rest) (i + 1) rule ↔
      ¬ first.Matches attributes ∧ IsFirstMatch attributes rest i rule := by
  constructor
  · rintro ⟨hget, hm, hbefore⟩
    refine ⟨hbefore 0 (Nat.succ_pos i) first rfl, hget, hm, fun j hj other ho => ?_⟩
    exact hbefore (j + 1) (Nat.succ_lt_succ hj) other ho
  · rintro ⟨hfirst, hget, hm, hbefore⟩
    refine ⟨hget, hm, fun j hj other ho => ?_⟩
    cases j with
    | zero =>
      obtain rfl := Option.some.inj ho
      exact hfirst
    | succ j => exact hbefore j (Nat.lt_of_succ_lt_succ hj) other ho

/-- Some rule is the first that matches, or none matches. -/
theorem exists_isFirstMatch_or (attributes : Attributes) (rules : List Rule) :
    (∃ i rule, IsFirstMatch attributes rules i rule) ∨
      ∀ rule ∈ rules, ¬ rule.Matches attributes := by
  induction rules with
  | nil => exact .inr fun _ h => absurd h List.not_mem_nil
  | cons first rest ih =>
    by_cases hfirst : first.Matches attributes
    · exact .inl ⟨0, first, isFirstMatch_cons_zero hfirst⟩
    rcases ih with ⟨i, rule, h⟩ | hnone
    · exact .inl ⟨i + 1, rule, isFirstMatch_cons_succ.mpr ⟨hfirst, h⟩⟩
    · exact .inr (List.forall_mem_cons.mpr ⟨hfirst, hnone⟩)

/-! ## Entries -/

/-- The entry of a rule that is looked at. -/
def Rule.verdict (attributes : Attributes) (rule : Rule) : RuleDiagnostic :=
  match rule.fits attributes with
  | .ok value => .evaluated rule.name rule.condition value
  | .error e => .failed rule.name rule.condition e.message

@[simp] theorem Rule.verdict_ruleName : (rule.verdict attributes).ruleName = rule.name := by
  rw [Rule.verdict]
  split <;> rfl

@[simp] theorem Rule.verdict_expression :
    (rule.verdict attributes).expression = rule.condition := by
  rw [Rule.verdict]
  split <;> rfl

/-- **The verdict tells whether the rule matches**, also if its condition has no value. -/
theorem Rule.verdict_matched_iff :
    (rule.verdict attributes).matched = true ↔ rule.Matches attributes := by
  rw [Rule.matches_iff_fits, Rule.verdict]
  cases rule.fits attributes <;> simp [RuleDiagnostic.evaluated, RuleDiagnostic.failed]

/-- The entries when the first `n` rules are looked at and the others are skipped. -/
def entriesUpTo (attributes : Attributes) (rules : List Rule) (n : Nat) : List RuleDiagnostic :=
  rules.mapIdx fun k rule => if k < n then rule.verdict attributes else .skipped rule.name

/-- The entry of a rule is its verdict in front of `n`, and tells that it was skipped from there on. -/
theorem getElem?_entriesUpTo (k : Nat) :
    (entriesUpTo attributes rules n)[k]? =
      rules[k]?.map fun rule => if k < n then rule.verdict attributes else .skipped rule.name := by
  rw [entriesUpTo, List.getElem?_mapIdx]

theorem getElem?_entriesUpTo_of_lt {k : Nat} (hk : k < n) (hr : rules[k]? = some rule) :
    (entriesUpTo attributes rules n)[k]? = some (rule.verdict attributes) := by
  rw [getElem?_entriesUpTo, hr, Option.map_some, if_pos hk]

theorem getElem?_entriesUpTo_of_le {k : Nat} (hk : n ≤ k) (hr : rules[k]? = some rule) :
    (entriesUpTo attributes rules n)[k]? = some (.skipped rule.name) := by
  rw [getElem?_entriesUpTo, hr, Option.map_some, if_neg (Nat.not_lt.mpr hk)]

/-- Every entry belongs to the rule at its place. -/
theorem getElem?_entriesUpTo_eq_some {k : Nat} {entry : RuleDiagnostic}
    (h : (entriesUpTo attributes rules n)[k]? = some entry) :
    ∃ rule, rules[k]? = some rule ∧
      (if k < n then rule.verdict attributes else .skipped rule.name) = entry := by
  rwa [getElem?_entriesUpTo, Option.map_eq_some_iff] at h

/-- The rule in front is looked at before the others. -/
theorem entriesUpTo_cons_succ {rest : List Rule} {first : Rule} :
    entriesUpTo attributes (first :: rest) (n + 1) =
      first.verdict attributes :: entriesUpTo attributes rest n := by
  simp [entriesUpTo, List.mapIdx_cons]

theorem entriesUpTo_zero :
    entriesUpTo attributes rules 0 = rules.map fun rule => .skipped rule.name := by
  refine List.ext_getElem? fun k => ?_
  rw [getElem?_entriesUpTo, List.getElem?_map]
  rfl

/-- **There is an entry for each rule**, in order and under its name. -/
theorem map_ruleName_entriesUpTo :
    (entriesUpTo attributes rules n).map (·.ruleName) = rules.map (·.name) := by
  refine List.ext_getElem? fun k => ?_
  rw [List.getElem?_map, getElem?_entriesUpTo, List.getElem?_map, Option.map_map]
  congr 1
  funext rule
  by_cases hk : k < n <;> simp [hk, RuleDiagnostic.skipped]

/-! ## The walk -/

/-- A matching rule in front is selected, and all others are skipped. -/
theorem selectRule_cons_of_matches {rest : List Rule} (h : rule.Matches attributes) :
    selectRule attributes (rule :: rest) =
      (some rule, entriesUpTo attributes (rule :: rest) 1) := by
  have hfits := Rule.matches_iff_fits.mp h
  rw [entriesUpTo_cons_succ, entriesUpTo_zero, Rule.verdict, selectRule, hfits]

/-- A rule in front that does not match leaves the selection to the others. -/
theorem selectRule_cons_of_not_matches {rest : List Rule} (h : ¬ rule.Matches attributes) :
    selectRule attributes (rule :: rest) =
      ((selectRule attributes rest).1,
        rule.verdict attributes :: (selectRule attributes rest).2) := by
  rw [Rule.matches_iff_fits] at h
  rw [selectRule, Rule.verdict]
  cases hf : rule.fits attributes with
  | error e => rfl
  | ok value =>
    cases value with
    | true => exact absurd hf h
    | false => rfl

/-- **The rule that is chosen is the first that matches**, and looking stops there. -/
theorem selectRule_of_isFirstMatch (h : IsFirstMatch attributes rules i rule) :
    selectRule attributes rules = (some rule, entriesUpTo attributes rules (i + 1)) := by
  induction rules generalizing i with
  | nil => exact absurd h.getElem?_eq (by simp)
  | cons first rest ih =>
    cases i with
    | zero =>
      obtain rfl := Option.some.inj h.getElem?_eq
      exact selectRule_cons_of_matches h.isMatch
    | succ i =>
      obtain ⟨hfirst, hrest⟩ := isFirstMatch_cons_succ.mp h
      rw [selectRule_cons_of_not_matches hfirst, ih hrest, entriesUpTo_cons_succ]

/-- **No rule is chosen if none matches**, and all are looked at. -/
theorem selectRule_of_no_match (h : ∀ rule ∈ rules, ¬ rule.Matches attributes) :
    selectRule attributes rules = (none, entriesUpTo attributes rules rules.length) := by
  induction rules with
  | nil => rfl
  | cons first rest ih =>
    obtain ⟨hfirst, hrest⟩ := List.forall_mem_cons.mp h
    rw [selectRule_cons_of_not_matches hfirst, ih hrest, List.length_cons, entriesUpTo_cons_succ]

end DatasetHosting
