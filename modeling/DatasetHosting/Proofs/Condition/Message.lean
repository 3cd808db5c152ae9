import DatasetHosting.Proofs.Condition.Evaluation
import DatasetHosting.Proofs.Condition.Reading
import DatasetHosting.Proofs.Text.Quoted
import DatasetHosting.Proofs.Text.Whole

/-!
# Proofs/Condition/Message — the parser's messages tell its errors apart

The answer of the parser is a text where it fails (`answer`).  No error is lost in it: messages of different
kinds differ early on (`ParseError.mark`), and what a message shows of a token names the token, as quoted
texts can be read in one way only (`Token.describe_injective`).  So what is known of the errors of the parser
is known of its answers (`answer_eq_error_iff`).
-/

namespace DatasetHosting.Condition

open DatasetHosting.Text

variable {ts : List Token} {e : Expr}

/-! ## Tokens in messages -/

theorem Comparison.name_injective {sign sign' : Comparison} (h : sign.name = sign'.name) :
    sign = sign' := by
  revert h
  cases sign <;> cases sign' <;> decide

/-- Whatever follows, a text starts as its first part does. -/
theorem take_toList_append {s : String} {k : Nat} (h : k ≤ s.toList.length) (t : String) :
    (s ++ t).toList.take k = s.toList.take k := by
  rw [String.toList_append, List.take_append_of_le_length h]

/-- What stands between the same texts can be read off. -/
theorem eq_of_append_eq {opening s t closing : String}
    (h : opening ++ s ++ closing = opening ++ t ++ closing) : s = t :=
  (String.append_right_inj _).mp ((String.append_left_inj _).mp h)

/-- The two letters that a shown token starts with. -/
def Token.initials : Token → List Char
  | identifier _ => ['I', 'd']
  | text _ => ['S', 't']
  | number _ => ['N', 'u']
  | boolean _ => ['B', 'o']
  | comparison _ => ['C', 'o']
  | and => ['A', 'n']
  | or => ['O', 'r']
  | not => ['N', 'o']
  | leftParen => ['L', 'e']
  | rightParen => ['R', 'i']

theorem Token.take_describe (t : Token) : t.describe.toList.take 2 = t.initials := by
  cases t with
  | boolean value => cases value <;> rfl
  | identifier | text | number | comparison =>
    refine (congrArg (fun shown => shown.toList.take 2) String.append_assoc).trans ?_
    exact take_toList_append (by decide) _
  | and | or | not | leftParen | rightParen => rfl

/-- **Messages show different tokens differently.** -/
theorem Token.describe_injective {t u : Token} (h : t.describe = u.describe) : t = u := by
  have hinitials : t.initials = u.initials := by
    rw [← take_describe t, h, take_describe u]
  cases t <;> cases u <;> try simp [initials] at hinitials
  case identifier.identifier => rw [quoted_injective (eq_of_append_eq h)]
  case text.text => rw [quoted_injective (eq_of_append_eq h)]
  case number.number => rw [quoted_injective (eq_of_append_eq h)]
  case boolean.boolean value value' =>
    revert h
    cases value <;> cases value' <;> decide
  case comparison.comparison => rw [Comparison.name_injective (eq_of_append_eq h)]
  all_goals rfl

/-! ## Messages -/

/-- The letters by which a message can be told, the tenth to the twelfth. -/
def ParseError.mark : ParseError → List Char
  | endOfExpression => ['d', ' ', 'e']
  | incompleteComparison => ['e', ' ', 'c']
  | missingParen => ['\'', ')', '\'']
  | notOperand _ => ['i', 'd', 'e']
  | notComparison _ => ['c', 'o', 'm']
  | leftover _ _ => ['d', ' ', 't']

theorem ParseError.message_leftover (found : Token) (position : Nat) :
    (leftover found position).message =
      "unexpected token " ++ (found.describe ++ " at position " ++ toString position) :=
  (congrArg (· ++ toString position) String.append_assoc).trans String.append_assoc

/-- Three characters of a message tell which kind of error it is. -/
theorem ParseError.drop_take_message (error : ParseError) :
    (error.message.toList.take 12).drop 9 = error.mark := by
  cases error with
  | endOfExpression | incompleteComparison | missingParen => rfl
  | notOperand | notComparison => exact congrArg _ (take_toList_append (by decide) _)
  | leftover found position =>
    rw [message_leftover]
    exact congrArg _ (take_toList_append (by decide) _)

/-- The position is what stands behind the last space of a message. -/
theorem ParseError.leftover_injective {found found' : Token} {position position' : Nat}
    (h : (leftover found position).message = (leftover found' position').message) :
    leftover found position = leftover found' position' := by
  rw [message_leftover, message_leftover, String.append_right_inj] at h
  have hspace : ∀ n, ' ' ∉ Nat.toDigits 10 n := fun n hmem =>
    absurd (isDigit_of_mem_toDigits hmem) (by decide)
  have hsplit : ∀ (found : Token) position,
      (found.describe ++ " at position " ++ toString position).toList =
        found.describe.toList ++ " at position".toList ++ ' ' :: Nat.toDigits 10 position := by
    intro found position
    rw [String.toList_append, String.toList_append, toList_toString, List.append_assoc,
      List.append_assoc]
    rfl
  have hchars := congrArg String.toList h
  rw [hsplit, hsplit] at hchars
  obtain ⟨hfound, hposition⟩ := append_cons_inj_last (hspace _) (hspace _) hchars
  have hdescribe := String.toList_injective (List.append_cancel_right hfound)
  rw [Token.describe_injective hdescribe, ← digitsValue_toDigits position, hposition,
    digitsValue_toDigits]

/-- **Messages tell the errors apart.** -/
theorem ParseError.message_injective {error error' : ParseError}
    (h : error.message = error'.message) : error = error' := by
  have hmark : error.mark = error'.mark := by
    rw [← drop_take_message error, h, drop_take_message error']
  cases error <;> cases error' <;> try simp [mark] at hmark
  case notOperand.notOperand =>
    rw [Token.describe_injective ((String.append_right_inj _).mp h)]
  case notComparison.notComparison =>
    rw [Token.describe_injective ((String.append_right_inj _).mp h)]
  case leftover.leftover => exact leftover_injective h
  all_goals rfl

/-! ## Answers -/

/-- **What the parser answers**: a condition, or the wording of its error. -/
def answer (ts : List Token) : Except String Expr :=
  (parse ts).mapError ParseError.message

/-- The answer of the parser is its tree. -/
theorem answer_eq_ok_iff : answer ts = .ok e ↔ parse ts = .ok e :=
  mapError_eq_ok_iff

/-- An answer names one error. -/
theorem answer_eq_error_iff {error : ParseError} :
    answer ts = .error error.message ↔ parse ts = .error error := by
  rw [answer, mapError_eq_error_iff]
  constructor
  · rintro ⟨cause, hparse, hmessage⟩
    rw [hparse, ParseError.message_injective hmessage]
  · intro hparse
    exact ⟨error, hparse, rfl⟩

end DatasetHosting.Condition
