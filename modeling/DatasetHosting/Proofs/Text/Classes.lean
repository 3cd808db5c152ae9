import DatasetHosting.Text.Alphabetic
import DatasetHosting.Text.Blank
import DatasetHosting.Text.Numeric

/-!
# Proofs/Text/Classes — character classes that do not meet

Two tables of ranges have no character in common if no two of their ranges overlap (`Ranges.apart`), which
is settled by looking at the tables.  White space meets neither the letters nor the numbers, and the
ASCII digits are no letters.
-/

namespace DatasetHosting.Text

variable {c : Char}

namespace Ranges

/-- No range of one table overlaps a range of the other. -/
def apart (left right : Ranges) : Bool :=
  left.all fun l => right.all fun r => l.2 < r.1 || r.2 < l.1

/-- A character is in a class if one of its ranges holds it. -/
theorem has_eq_true_iff {ranges : Ranges} :
    ranges.has c = true ↔ ∃ range ∈ ranges, range.1 ≤ c.toNat ∧ c.toNat ≤ range.2 := by
  simp [has]

/-- **Tables that are apart have no character in common.** -/
theorem has_eq_false_of_apart {left right : Ranges} (h : left.apart right = true)
    (hc : left.has c = true) : right.has c = false := by
  rw [Bool.eq_false_iff]
  intro hright
  obtain ⟨l, hl, hlow, hhigh⟩ := has_eq_true_iff.mp hc
  obtain ⟨r, hr, hlow', hhigh'⟩ := has_eq_true_iff.mp hright
  have happart : l.2 < r.1 ∨ r.2 < l.1 := by
    simpa using List.all_eq_true.mp (List.all_eq_true.mp h l hl) r hr
  omega

end Ranges

/-! ## The tables behind the classes -/

/-- The ASCII digits as a table. -/
def digitRanges : Ranges := [(0x30, 0x39)]

theorem isDigit_eq_has : c.isDigit = digitRanges.has c := by
  rw [Bool.eq_iff_iff, Ranges.has_eq_true_iff]
  simp [Char.isDigit, digitRanges, UInt32.le_iff_toNat_le, ← Char.toNat_val]

/-- The ASCII letters are in the table of letters. -/
theorem isAlphabetic_eq_has : isAlphabetic c = alphabeticRanges.has c := by
  rw [isAlphabetic, Bool.or_eq_right_iff_imp, Ranges.has_eq_true_iff]
  intro h
  rcases Bool.or_eq_true_iff.mp h with hupper | hlower
  · refine ⟨(0x41, 0x5A), List.mem_cons_self, ?_⟩
    change decide (_ ∧ _) = true at hupper
    simpa [UInt32.le_iff_toNat_le, ← Char.toNat_val] using hupper
  · refine ⟨(0x61, 0x7A), List.mem_cons_of_mem _ List.mem_cons_self, ?_⟩
    change (decide _ && decide _) = true at hlower
    simpa [UInt32.le_iff_toNat_le, ← Char.toNat_val] using hlower

/-- …and the ASCII digits in the table of numbers. -/
theorem isNumeric_eq_has : isNumeric c = numericRanges.has c := by
  rw [isNumeric, Bool.or_eq_right_iff_imp, isDigit_eq_has, Ranges.has_eq_true_iff,
    Ranges.has_eq_true_iff]
  rintro ⟨range, hrange, hin⟩
  obtain rfl := List.mem_singleton.mp hrange
  exact ⟨_, List.mem_cons_self, hin⟩

/-! ## Classes that do not meet -/

/-- No letter is white space. -/
theorem isAlphabetic_of_isBlank (h : isBlank c = true) : isAlphabetic c = false := by
  have happart : blankRanges.apart alphabeticRanges = true := by decide +kernel
  rw [isAlphabetic_eq_has]
  exact Ranges.has_eq_false_of_apart happart h

theorem isNumeric_of_isBlank (h : isBlank c = true) : isNumeric c = false := by
  have happart : blankRanges.apart numericRanges = true := by decide +kernel
  rw [isNumeric_eq_has]
  exact Ranges.has_eq_false_of_apart happart h

theorem isDigit_of_isBlank (h : isBlank c = true) : c.isDigit = false := by
  have happart : blankRanges.apart digitRanges = true := by decide
  rw [isDigit_eq_has]
  exact Ranges.has_eq_false_of_apart happart h

/-- No digit is a letter. -/
theorem isAlphabetic_of_isDigit (h : c.isDigit = true) : isAlphabetic c = false := by
  have happart : digitRanges.apart alphabeticRanges = true := by decide +kernel
  rw [isDigit_eq_has] at h
  rw [isAlphabetic_eq_has]
  exact Ranges.has_eq_false_of_apart happart h

end DatasetHosting.Text
