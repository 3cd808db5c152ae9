import DatasetHosting.Proofs.Condition.Evaluation

/-!
# Proofs/Condition/Negation — negation can be pushed inward

The complement of a condition negates it without a `NOT` around it: signs are replaced by the opposite ones
and the connectives by each other (`Expr.complement`).  Evaluation goes through a condition and through its
complement in step.  It looks at the same operands in the same order, as the value at which `AND` stops is the
complement of the one at which `OR` does; so the two have opposite values or the same error
(`Expr.eval_complement`).
-/

namespace DatasetHosting.Condition

variable {attributes : Attributes}

/-! ## Signs -/

/-- The sign that holds where the given one does not. -/
def Comparison.complement : Comparison → Comparison
  | equal => notEqual
  | notEqual => equal
  | less => greaterOrEqual
  | lessOrEqual => greater
  | greater => lessOrEqual
  | greaterOrEqual => less

theorem Comparison.holds_complement (sign : Comparison) (order : Ordering) :
    sign.complement.holds order = !sign.holds order := by
  cases sign <;> cases order <;> rfl

/-! ## Conditions -/

/-- **The complement of a condition**, which takes a `NOT` away instead of adding one. -/
def Expr.complement : Expr → Expr
  | comparison sign left right => .comparison sign.complement left right
  | and left right => .or left.complement right.complement
  | or left right => .and left.complement right.complement
  | not inner => inner
  | boolean value => .boolean (!value)

/-- **The complement has the opposite value**, and fails as the condition does: `AND` stops at `false` where `OR`
stops at `true`, so that both skip the right side or neither does. -/
theorem Expr.eval_complement (e : Expr) :
    e.complement.eval attributes = (e.eval attributes).map (!·) := by
  induction e with
  | comparison sign left right =>
    rw [complement, eval, eval]
    cases left.value attributes with
    | error error => rfl
    | ok l =>
      cases right.value attributes with
      | error error => rfl
      | ok r => exact congrArg Except.ok (sign.holds_complement (compareValues l r))
  | and left right ihl ihr | or left right ihl ihr =>
    rw [complement, eval, eval, ihl, ihr]
    cases left.eval attributes with
    | error error => rfl
    | ok value => cases value <;> rfl
  | not inner =>
    rw [complement, eval_not_eq]
    cases inner.eval attributes with
    | error error => rfl
    | ok value => exact congrArg Except.ok value.not_not.symm
  | boolean value => rfl

theorem Expr.answer_complement (e : Expr) :
    e.complement.answer attributes = (e.answer attributes).map (!·) := by
  rw [answer, answer, eval_complement]
  cases e.eval attributes <;> rfl

/-- **Negation can be pushed inward.**  A condition and its complement have opposite values or the same
error, whatever attributes are missing; so the complement can stand for a `NOT` around the condition. -/
theorem Expr.complement_negates (e : Expr) (attributes : Attributes) :
    (∀ value, e.complement.answer attributes = .ok (!value) ↔ e.answer attributes = .ok value) ∧
      (∀ message,
        e.complement.answer attributes = .error message ↔ e.answer attributes = .error message) ∧
      e.complement.answer attributes = (Expr.not e).answer attributes := by
  rw [answer_complement]
  refine ⟨fun value => ?_, fun message => ?_, ?_⟩
  · cases e.answer attributes with
    | error error => exact iff_of_false (by rintro ⟨⟩) (by rintro ⟨⟩)
    | ok result => simp [Except.map]
  · cases e.answer attributes with
    | error error => exact Iff.rfl
    | ok result => exact iff_of_false (by rintro ⟨⟩) (by rintro ⟨⟩)
  · rw [← answer_complement, answer, answer, eval_complement, eval_not_eq]

end DatasetHosting.Condition
