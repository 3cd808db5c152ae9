import DatasetHosting.Text.Whole

/-!
# Proofs/Text/Whole — decimal digits and the numbers they write

A number is written as its decimal digits, which are read back as the number (`readNat?_toDigits`), so that
different numbers are written differently.  The bound of 64 bits is the only other thing that a reader of
digits looks at (`readInt64?_of_digits`).
-/

namespace DatasetHosting.Text

variable {c : Char} {cs : List Char} {n : Nat}

/-! ## Writing -/

theorem toList_toString (n : Nat) : (toString n).toList = Nat.toDigits 10 n :=
  Nat.toList_repr

theorem isDigit_of_mem_toDigits (h : c ∈ Nat.toDigits 10 n) : c.isDigit = true :=
  Nat.isDigit_of_mem_toDigits (by decide) (by decide) h

/-- The value of the digits of a number is the number. -/
theorem digitsValue_toDigits (n : Nat) : digitsValue 0 (Nat.toDigits 10 n) = n :=
  Nat.ofDigitChars_ten_toDigits

/-- **Decimal numerals are different for different numbers.** -/
theorem toString_injective {m n : Nat} (h : toString m = toString n) : m = n := by
  have hdigits : Nat.toDigits 10 m = Nat.toDigits 10 n := String.ofList_injective h
  rw [← digitsValue_toDigits m, hdigits, digitsValue_toDigits]

/-! ## Reading -/

theorem readNat?_of_digits (hsome : cs ≠ []) (hdigits : ∀ d ∈ cs, d.isDigit = true) :
    readNat? cs = some (digitsValue 0 cs) := by
  rw [readNat?, if_pos ⟨hsome, List.all_eq_true.mpr hdigits⟩]

/-- **What is written is read back.** -/
theorem readNat?_toDigits (n : Nat) : readNat? (Nat.toDigits 10 n) = some n := by
  rw [readNat?_of_digits Nat.toDigits_ne_nil fun _ => isDigit_of_mem_toDigits, digitsValue_toDigits]

/-- Digits are a signed number of 64 bits exactly if it is not too large. -/
theorem readInt64?_of_digits (hsome : cs ≠ []) (hdigits : ∀ d ∈ cs, d.isDigit = true) :
    readInt64? cs =
      if (digitsValue 0 cs : Int) ≤ maxInt64 then some (digitsValue 0 cs : Int) else none := by
  have hsigned : ∀ sign, sign.isDigit = false → ∀ ds, cs ≠ sign :: ds := by
    rintro sign hsign ds rfl
    rw [hdigits sign List.mem_cons_self] at hsign
    cases hsign
  have hread : readInt? cs = some (digitsValue 0 cs : Int) := by
    rw [readInt?.eq_3 cs (hsigned '-' rfl) (hsigned '+' rfl), readNat?_of_digits hsome hdigits]
    rfl
  have hlow : minInt64 ≤ (digitsValue 0 cs : Int) := by
    have : minInt64 ≤ 0 := by decide
    omega
  rw [readInt64?, hread, Option.filter_some]
  simp [hlow]

/-- Numbers up to the largest one of 64 bits are read back from their digits. -/
theorem readInt64?_toString (h : (n : Int) ≤ maxInt64) :
    readInt64? (toString n).toList = some (n : Int) := by
  rw [toList_toString, readInt64?_of_digits Nat.toDigits_ne_nil fun _ => isDigit_of_mem_toDigits,
    digitsValue_toDigits, if_pos h]

end DatasetHosting.Text
