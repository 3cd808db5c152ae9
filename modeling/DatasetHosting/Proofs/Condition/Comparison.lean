import DatasetHosting.Proofs.Condition.Composition
import DatasetHosting.Proofs.Text.Whole

/-!
# Proofs/Condition/Comparison — comparing two operands

A comparison of two operands may be written with white space around its lexemes or without: an operand ends
where a sign begins and a sign where an operand begins, so it compiles either way (`compile_spaced`).

Attribute values are texts, and so are the literals they are compared with.  Where both are numbers of 64
bits, a comparison says what its sign says of the numbers (`compareValues_of_read`): neither a different
count of digits nor zeros in front make a difference.  A numeral beyond that is compared as a text
(`compareValues_of_isNumeral`).
-/

namespace DatasetHosting.Condition

open DatasetHosting.Text

variable {attributes : Attributes} {sign : Comparison} {l r : Int}

/-! ## A comparison as a text -/

/-- **White space around the lexemes of a comparison**, or none. -/
structure Spacing where
  /-- In front of the left operand. -/
  before : String
  /-- Between the left operand and the sign. -/
  left : String
  /-- Between the sign and the right operand. -/
  right : String
  /-- Behind the right operand. -/
  after : String
  /-- No gap holds anything but white space. -/
  blank : ∀ gap ∈ [before, left, right, after], isBlankText gap = true

namespace Spacing

/-- A space on either side of the sign. -/
def single : Spacing :=
  ⟨"", " ", " ", "", by decide⟩

/-- The text of a comparison, with the gaps around its lexemes. -/
def write (spacing : Spacing) (left : String) (sign : Comparison) (right : String) : String :=
  spacing.before ++ (left ++ (spacing.left ++ (sign.symbol ++ (spacing.right ++
    (right ++ spacing.after)))))

end Spacing

section Seams

variable {t u : Token} {o left right : Operand} {cs gap rest : List Char} {c : Char}

/-- A lexeme that ends in front of a text ends in front of white space and the text. -/
theorem Token.EndsAt.append_gap (hblank : ∀ c ∈ gap, isBlank c = true) (h : t.EndsAt rest) :
    t.EndsAt (gap ++ rest) := by
  refine Token.EndsAt.append ?_ h
  rintro c more rfl
  exact t.absorbs_of_isBlank (hblank c List.mem_cons_self)

/-- **An operand ends where a sign begins.** -/
theorem Token.Denotes.endsAt_symbol (h : t.Denotes o) (sign : Comparison) (rest : List Char) :
    t.EndsAt (sign.symbol.toList ++ rest) := by
  intro c more hc
  have hstart : isSignStart c = true := by
    cases sign <;> (obtain ⟨rfl, -⟩ := List.cons.inj hc; rfl)
  have hword : isWordChar c = false ∧ c.isDigit = false := by
    rcases isSignStart_iff.mp hstart with rfl | rfl | rfl | rfl <;> decide +kernel
  cases h with
  | identifier name => exact hword.1
  | text value => rfl
  | number digits => exact hword.2

theorem Token.Denotes.ne_equals (h : t.Denotes o) (hspelled : t.Spelled (c :: cs)) : c ≠ '=' := by
  generalize hcs : c :: cs = whole at hspelled
  cases h with
  | identifier name =>
    cases hspelled with
    | identifier hname =>
      have hword := hname.1
      rw [← hcs, isWord, Bool.and_eq_true] at hword
      exact ne_of_class hword.1 (by decide +kernel)
  | text value =>
    cases hspelled with
    | text hquote _ =>
      obtain ⟨rfl, -⟩ := List.cons.inj hcs
      rcases hquote with rfl | rfl <;> decide
  | number digits =>
    cases hspelled with
    | number _ hdigits _ =>
      rw [← hcs] at hdigits
      exact ne_of_class (hdigits c List.mem_cons_self) (by decide)

/-- **A sign ends where an operand begins**: only an equals sign would go on with it. -/
theorem Token.Denotes.sign_endsAt (h : t.Denotes o) (hspelled : t.Spelled cs) (sign : Comparison)
    (rest : List Char) : (Token.comparison sign).EndsAt (cs ++ rest) := by
  obtain ⟨first, behind, rfl⟩ := hspelled.exists_cons
  intro c more hc
  obtain ⟨rfl, -⟩ := List.cons.inj hc
  have hne : (first == '=') = false := beq_eq_false_iff_ne.mpr (h.ne_equals hspelled)
  cases sign <;> first | exact hne | rfl

/-- **The text of a comparison splits into three lexemes**, whatever its spacing. -/
theorem Spacing.splits (spacing : Spacing) {l r : String} (ht : t.Denotes left)
    (hl : t.Spelled l.toList) (hu : u.Denotes right) (hr : u.Spelled r.toList) :
    Splits (spacing.write l sign r).toList [t, .comparison sign, u] := by
  obtain ⟨before, gap, gap', after, hblank⟩ := spacing
  simp only [List.forall_mem_cons, isBlankText, List.all_eq_true] at hblank
  obtain ⟨hbefore, hgap, hgap', hafter, -⟩ := hblank
  have hnone : Splits after.toList [] := by
    have hblank := splits_append_of_blank hafter .nil
    rwa [List.append_nil] at hblank
  have hend : u.EndsAt after.toList := by
    have hblank := u.endsAt_nil.append_gap hafter
    rwa [List.append_nil] at hblank
  have hbehind : Splits _ [.comparison sign, u] :=
    .lexeme (.sign sign) ((hu.sign_endsAt hr sign _).append_gap hgap')
      (splits_append_of_blank hgap' (.lexeme hr hend hnone))
  have hwhole : Splits _ [t, .comparison sign, u] :=
    splits_append_of_blank hbefore
      (.lexeme hl ((ht.endsAt_symbol sign _).append_gap hgap) (splits_append_of_blank hgap hbehind))
  simpa only [write, String.toList_append] using hwhole

/-- **A comparison compiles however it is spaced.** -/
theorem compile_spaced (spacing : Spacing) {l r : String} (ht : t.Denotes left)
    (hl : t.Spelled l.toList) (hu : u.Denotes right) (hr : u.Spelled r.toList) :
    compile (spacing.write l sign r) = .ok (.comparison sign left right) := by
  have hprimary : Writes .primary _ (.comparison sign left right) :=
    ⟨_, spacing.splits ht hl hu hr, .comparison sign ht hu⟩
  exact compile_eq_ok_iff_writes.mpr (hprimary.loosen (by decide))

end Seams

/-! ## Numerals -/

/-- **A numeral**: ASCII digits, and at least one.  Zeros may stand in front. -/
def IsNumeral (text : String) : Prop :=
  text.toList ≠ [] ∧ ∀ d ∈ text.toList, d.isDigit = true

/-- **The number that a numeral writes.** -/
def numberOf (text : String) : Int :=
  digitsValue 0 text.toList

theorem numberOf_toString (n : Nat) : numberOf (toString n) = n := by
  rw [numberOf, toList_toString, digitsValue_toDigits]

section Literals

variable {digits : String} {cs : List Char}

/-- A text that is one number token is the spelling of that token. -/
theorem spelled_of_tokenize_number (h : tokenize digits = .ok [.number digits]) :
    (Token.number digits).Spelled digits.toList := by
  obtain ⟨cs, hspelled⟩ := spelled_of_splits (splits_of_tokens h) _ List.mem_cons_self
  cases hspelled with
  | number hsome hdigits hfits => exact .number hsome hdigits hfits

theorem tokenize_of_spelled_number (h : (Token.number digits).Spelled digits.toList) :
    tokenize digits = .ok [.number digits] :=
  tokens_of_splits h.splits

theorem Token.spelled_toString {n : Nat} (h : (n : Int) ≤ maxInt64) :
    (Token.number (toString n)).Spelled (toString n).toList := by
  refine .number ?_ ?_ ?_ <;> rw [toList_toString]
  · exact Nat.toDigits_ne_nil
  · exact fun _ => isDigit_of_mem_toDigits
  · rwa [digitsValue_toDigits]

/-- **A literal is never too large**: the lexer has refused those that are. -/
theorem numberOf_le_of_spelled (h : (Token.number digits).Spelled cs) :
    numberOf digits ≤ maxInt64 := by
  cases h with
  | number _ _ hfits => exact hfits

/-- …so it is read back as its number. -/
theorem readInt64?_of_spelled (h : (Token.number digits).Spelled cs) :
    readInt64? digits.toList = some (numberOf digits) := by
  cases h with
  | number hsome hdigits hfits => rw [readInt64?_of_digits hsome hdigits, if_pos hfits, numberOf]

end Literals

/-! ## What a comparison says -/

/-- **What a sign says of two numbers.** -/
def Comparison.relates : Comparison → Int → Int → Bool
  | equal, l, r => l == r
  | notEqual, l, r => l != r
  | less, l, r => l < r
  | lessOrEqual, l, r => l ≤ r
  | greater, l, r => r < l
  | greaterOrEqual, l, r => r ≤ l

theorem Comparison.holds_compare (sign : Comparison) (l r : Int) :
    sign.holds (compare l r) = sign.relates l r := by
  rw [Bool.eq_iff_iff]
  cases sign <;>
    simp [holds, relates, Int.compare_eq_lt, Int.compare_eq_gt]

/-- Of values that differ, a sign says what it would say of a larger and a smaller one exactly if they are
such or it does not look at their order. -/
theorem Comparison.holds_eq_holds_gt_iff {order : Ordering} (h : order ≠ .eq) :
    sign.holds order = sign.holds .gt ↔ sign = .equal ∨ sign = .notEqual ∨ order = .gt := by
  cases order with
  | eq => exact absurd rfl h
  | lt => cases sign <;> decide
  | gt => exact iff_of_true rfl (.inr (.inr rfl))

theorem compareValues_of_read {left right : String} (hl : readInt64? left.toList = some l)
    (hr : readInt64? right.toList = some r) : compareValues left right = compare l r := by
  rw [compareValues, hl, hr]

/-- **A numeral against a number**: they compare as numbers if the numeral writes one of 64 bits, and as texts
otherwise. -/
theorem compareValues_of_isNumeral {left right : String} (h : IsNumeral left)
    (hr : readInt64? right.toList = some r) :
    compareValues left right =
      if numberOf left ≤ maxInt64 then compare (numberOf left) r else compare left right := by
  rw [compareValues, readInt64?_of_digits h.1 h.2, hr, ← numberOf]
  by_cases hbound : numberOf left ≤ maxInt64
  · rw [if_pos hbound, if_pos hbound]
  · rw [if_neg hbound, if_neg hbound]

theorem Operand.value_of_lookup {name value : String} (h : attributes.lookup name = some value) :
    (identifier name).value attributes = .ok value := by
  rw [Operand.value, h]

theorem Expr.eval_comparison {left right : Operand} {value value' : String}
    (hl : left.value attributes = .ok value) (hr : right.value attributes = .ok value') :
    (comparison sign left right).eval attributes = .ok (sign.holds (compareValues value value')) := by
  rw [eval, hl, hr]
  rfl

end DatasetHosting.Condition
