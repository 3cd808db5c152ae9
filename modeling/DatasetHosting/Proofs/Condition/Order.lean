import DatasetHosting.Proofs.Condition.Comparison
import DatasetHosting.Proofs.Condition.Negation
import Mathlib.Logic.ExistsUnique

/-!
# Proofs/Condition/Order — the six signs as relations of texts

Two texts are compared as numbers if both are numbers of 64 bits, and as texts otherwise, so no one order of all
texts is behind the signs.  What the signs have in common all the same:

* texts are equal if they are the same or spell the same number (`compareValues_eq_iff`), which makes equality an
  equivalence although it is not equality of texts;
* turning a comparison round turns its order round (`compareValues_swap`), as it does for numbers and for texts;
* among numbers alone, or among other texts alone, there is one order, and less is transitive.
-/

namespace DatasetHosting.Condition

open DatasetHosting.Text

variable {a b c : String}

/-! ## Signs and orders -/

/-- **What a sign says of two texts**: the value of a comparison of operands that stand for them
(`Expr.eval_comparison`). -/
def Comparison.holdsOf (sign : Comparison) (left right : String) : Bool :=
  sign.holds (compareValues left right)

/-- The sign that says the same when the sides are exchanged. -/
def Comparison.mirror : Comparison → Comparison
  | equal => equal
  | notEqual => notEqual
  | less => greater
  | lessOrEqual => greaterOrEqual
  | greater => less
  | greaterOrEqual => lessOrEqual

theorem Comparison.holds_mirror (sign : Comparison) (order : Ordering) :
    sign.mirror.holds order.swap = sign.holds order := by
  cases sign <;> cases order <;> rfl

/-- Of less, equal and greater each order has its own. -/
theorem Comparison.existsUnique_holds (order : Ordering) :
    ∃! sign : Comparison, (sign = less ∨ sign = equal ∨ sign = greater) ∧ sign.holds order = true := by
  cases order with
  | lt => exact ⟨less, ⟨.inl rfl, rfl⟩, by rintro _ ⟨rfl | rfl | rfl, ⟨⟩⟩; rfl⟩
  | eq => exact ⟨equal, ⟨.inr (.inl rfl), rfl⟩, by rintro _ ⟨rfl | rfl | rfl, ⟨⟩⟩; rfl⟩
  | gt => exact ⟨greater, ⟨.inr (.inr rfl), rfl⟩, by rintro _ ⟨rfl | rfl | rfl, ⟨⟩⟩; rfl⟩

theorem Comparison.holdsOf_equal_iff : equal.holdsOf a b = true ↔ compareValues a b = .eq :=
  beq_iff_eq

theorem Comparison.holdsOf_less_iff : less.holdsOf a b = true ↔ compareValues a b = .lt :=
  beq_iff_eq

/-! ## Kinds of texts -/

/-- A text that is no number is compared as a text, with any other. -/
theorem compareValues_of_none (h : readInt64? a.toList = none ∨ readInt64? b.toList = none) :
    compareValues a b = compare a b := by
  rw [compareValues]
  split
  · next hl hr => rcases h with h | h <;> simp_all
  · rfl

/-- Two texts are both numbers, or one of them is none. -/
theorem readInt64?_cases (a b : String) :
    (∃ m n, readInt64? a.toList = some m ∧ readInt64? b.toList = some n) ∨
      (readInt64? a.toList = none ∨ readInt64? b.toList = none) := by
  cases readInt64? a.toList with
  | none => exact .inr (.inl rfl)
  | some m =>
    cases readInt64? b.toList with
    | none => exact .inr (.inr rfl)
    | some n => exact .inl ⟨m, n, rfl, rfl⟩

/-- **Texts are equal if they are the same or spell the same number.** -/
theorem compareValues_eq_iff :
    compareValues a b = .eq ↔
      a = b ∨ ∃ n, readInt64? a.toList = some n ∧ readInt64? b.toList = some n := by
  rcases readInt64?_cases a b with ⟨m, n, ha, hb⟩ | hnone
  · rw [compareValues_of_read ha hb, Std.LawfulEqCmp.compare_eq_iff_eq, ha, hb]
    constructor
    · rintro rfl
      exact .inr ⟨m, rfl, rfl⟩
    · rintro (rfl | ⟨k, hm, hn⟩)
      · exact Option.some.inj (ha.symm.trans hb)
      · exact Option.some.inj (hm.trans hn.symm)
  · -- a number and a text that is none are never the same text
    rw [compareValues_of_none hnone, Std.LawfulEqCmp.compare_eq_iff_eq]
    refine (or_iff_left ?_).symm
    rintro ⟨n, ha, hb⟩
    rcases hnone with hnone | hnone
    · rw [hnone] at ha
      cases ha
    · rw [hnone] at hb
      cases hb

/-! ## Order -/

/-- **Turning a comparison round turns its order round.** -/
theorem compareValues_swap (a b : String) : (compareValues a b).swap = compareValues b a := by
  rcases readInt64?_cases a b with ⟨m, n, ha, hb⟩ | hnone
  · rw [compareValues_of_read ha hb, compareValues_of_read hb ha, ← Std.OrientedOrd.eq_swap]
  · rw [compareValues_of_none hnone, compareValues_of_none hnone.symm, ← Std.OrientedOrd.eq_swap]

/-- Equality is transitive, as a text spells one number at most. -/
theorem compareValues_eq_trans (hab : compareValues a b = .eq) (hbc : compareValues b c = .eq) :
    compareValues a c = .eq := by
  rw [compareValues_eq_iff] at hab hbc ⊢
  rcases hab with rfl | ⟨m, ha, hb⟩
  · exact hbc
  · rcases hbc with rfl | ⟨n, hb', hc⟩
    · exact .inr ⟨m, ha, hb⟩
    · obtain rfl := Option.some.inj (hb.symm.trans hb')
      exact .inr ⟨m, ha, hc⟩

/-- **Less is transitive among texts of one kind**, numbers or others. -/
theorem compareValues_lt_trans
    (hkind : (∀ text ∈ [a, b, c], ∃ n, readInt64? text.toList = some n) ∨
      ∀ text ∈ [a, b, c], readInt64? text.toList = none)
    (hab : compareValues a b = .lt) (hbc : compareValues b c = .lt) : compareValues a c = .lt := by
  simp only [List.forall_mem_cons] at hkind
  rcases hkind with ⟨⟨l, ha⟩, ⟨m, hb⟩, ⟨n, hc⟩, -⟩ | ⟨ha, hb, hc, -⟩
  · rw [compareValues_of_read ha hb] at hab
    rw [compareValues_of_read hb hc] at hbc
    rw [compareValues_of_read ha hc]
    exact Std.TransCmp.lt_trans hab hbc
  · rw [compareValues_of_none (.inl ha)] at hab ⊢
    rw [compareValues_of_none (.inl hb)] at hbc
    exact Std.TransCmp.lt_trans hab hbc

/-! ## The signs together -/

/-- **The signs are one consistent relation of texts.**  One of less, equal and greater holds; the other three
signs negate these; a comparison can be turned round.  Equality is an equivalence, and holds of the same texts
and of two spellings of a number of 64 bits; less is transitive among numbers, and among other texts. -/
theorem Comparison.holdsOf_consistent (a b c : String) :
    (∃! sign : Comparison, (sign = less ∨ sign = equal ∨ sign = greater) ∧ sign.holdsOf a b = true) ∧
      (notEqual.holdsOf a b = !equal.holdsOf a b) ∧
      (lessOrEqual.holdsOf a b = !greater.holdsOf a b) ∧
      (greaterOrEqual.holdsOf a b = !less.holdsOf a b) ∧
      (∀ sign : Comparison, sign.holdsOf a b = sign.mirror.holdsOf b a) ∧
      equal.holdsOf a a = true ∧
      (equal.holdsOf a b = true → equal.holdsOf b a = true) ∧
      (equal.holdsOf a b = true → equal.holdsOf b c = true → equal.holdsOf a c = true) ∧
      (equal.holdsOf a b = true ↔
        a = b ∨ ∃ n, readInt64? a.toList = some n ∧ readInt64? b.toList = some n) ∧
      ((∀ text ∈ [a, b, c], ∃ n, readInt64? text.toList = some n) ∨
          (∀ text ∈ [a, b, c], readInt64? text.toList = none) →
        less.holdsOf a b = true → less.holdsOf b c = true → less.holdsOf a c = true) := by
  have hmirror : ∀ sign : Comparison, sign.holdsOf a b = sign.mirror.holdsOf b a := by
    intro sign
    rw [holdsOf, holdsOf, ← compareValues_swap a b, holds_mirror]
  refine ⟨existsUnique_holds _, equal.holds_complement _, greater.holds_complement _,
    less.holds_complement _, hmirror, holdsOf_equal_iff.mpr (compareValues_eq_iff.mpr (.inl rfl)),
    fun hab => ?_, fun hab hbc => ?_, holdsOf_equal_iff.trans compareValues_eq_iff,
    fun hkind hab hbc => ?_⟩
  · rwa [hmirror] at hab
  · exact holdsOf_equal_iff.mpr
      (compareValues_eq_trans (holdsOf_equal_iff.mp hab) (holdsOf_equal_iff.mp hbc))
  · exact holdsOf_less_iff.mpr
      (compareValues_lt_trans hkind (holdsOf_less_iff.mp hab) (holdsOf_less_iff.mp hbc))

/-- Three spellings of eight, and three numbers in order that would be in another as texts. -/
theorem Comparison.holdsOf_equal_spellings :
    equal.holdsOf "8" "08" = true ∧ equal.holdsOf "08" "+8" = true ∧ equal.holdsOf "8" "+8" = true ∧
      equal.holdsOf "08" "8" = true ∧
      less.holdsOf "-10" "9" = true ∧ less.holdsOf "9" "+10" = true ∧ less.holdsOf "-10" "+10" = true := by
  obtain ⟨-, -, -, -, -, -, hsymm, htrans, hequal, -⟩ := holdsOf_consistent "8" "08" "+8"
  obtain ⟨-, -, -, -, -, -, -, -, hequal', -⟩ := holdsOf_consistent "08" "+8" "8"
  have hzero : equal.holdsOf "8" "08" = true := hequal.mpr (.inr ⟨8, by decide, by decide⟩)
  have hplus : equal.holdsOf "08" "+8" = true := hequal'.mpr (.inr ⟨8, by decide, by decide⟩)
  obtain ⟨-, -, -, -, -, -, -, -, -, hless⟩ := holdsOf_consistent "-10" "9" "+10"
  have hnumbers : ∀ text ∈ ["-10", "9", "+10"], ∃ n, readInt64? text.toList = some n := by
    intro text htext
    refine Option.isSome_iff_exists.mp ?_
    revert text
    decide
  have hlow : less.holdsOf "-10" "9" = true := by decide
  have hhigh : less.holdsOf "9" "+10" = true := by decide
  exact ⟨hzero, hplus, htrans hzero hplus, hsymm hzero, hlow, hhigh, hless (.inl hnumbers) hlow hhigh⟩

/-- Two numbers and a text need not be in one order. -/
example : Comparison.less.holdsOf "9" "10" = true ∧ Comparison.less.holdsOf "10" "1a" = true ∧
    Comparison.less.holdsOf "9" "1a" = false := by
  decide

end DatasetHosting.Condition
