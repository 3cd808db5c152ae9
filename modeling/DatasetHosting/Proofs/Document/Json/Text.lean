import Mathlib.Tactic.SplitIfs
import DatasetHosting.Document.Json.Reader
import DatasetHosting.Document.Json.Writer
import DatasetHosting.Proofs.Text.Whole

/-!
# Proofs/Document/Json/Text — strings and whole numbers are read as they were written

A written string is read back whatever its characters are (`readText?_escape`): each character is one piece
of it, written plainly, behind a backslash or as a code of four digits.  A written whole number is read back
where nothing stands behind it that could belong to it (`readNumber?_whole`); what may stand behind a value
never does.
-/

namespace DatasetHosting.Json

open DatasetHosting.Text

/-! ## Strings -/

/-- The pieces of a string with one more character in front. -/
def prependChar (c : Char) : List Piece × List Char → List Piece × List Char
  | (pieces, rest) => (.char c :: pieces, rest)

variable {c : Char} {cs rest : List Char}

/-- A letter behind a backslash writes one character. -/
theorem pieces?_backslash {letter : Char} (h : simpleEscape? letter = some c) :
    pieces? ('\\' :: letter :: cs) = (pieces? cs).map (prependChar c) := by
  have hu : letter ≠ 'u' := by
    rintro rfl
    cases h
  rw [pieces?]
  · rw [h]
    cases pieces? cs <;> rfl
  · rintro _ _ _ _ _ rfl
    exact absurd rfl hu

theorem hexDigit?_digitChar : ∀ n < 16, hexDigit? (Nat.digitChar n) = some n := by
  decide

/-- **The code of a control names the control.** -/
theorem pieces?_escapeControl (h : c.toNat < 0x20) :
    pieces? (escapeControl c ++ cs) = (pieces? cs).map (prependChar c) := by
  have hhigh := hexDigit?_digitChar (c.toNat / 16) (by omega)
  have hlow := hexDigit?_digitChar (c.toNat % 16) (by omega)
  have hcode : hexValue? ['0', '0', Nat.digitChar (c.toNat / 16), Nat.digitChar (c.toNat % 16)] =
      some c.toNat := by
    have hzero : hexDigit? '0' = some 0 := rfl
    simp only [hexValue?, List.foldlM_cons, List.foldlM_nil, hzero, hhigh, hlow]
    simp
    omega
  have hpiece : Piece.ofCode c.toNat = .char c := by
    rw [Piece.ofCode, if_neg (by omega), Char.ofNat_toNat]
  rw [escapeControl]
  simp only [List.cons_append, List.nil_append, pieces?]
  rw [hcode]
  simp only [Option.bind_eq_bind, Option.bind_some, hpiece]
  cases pieces? cs <;> rfl

/-- A character that needs no escape stands for itself. -/
theorem pieces?_plain (hquote : c ≠ '"') (hslash : c ≠ '\\') (hcontrol : ¬ c.toNat < 0x20) :
    pieces? (c :: cs) = (pieces? cs).map (prependChar c) := by
  rw [pieces?, if_neg (by simp [hcontrol, hslash])]
  · cases pieces? cs <;> rfl
  all_goals simp_all

/-- **Each written character is one piece**, however it is written. -/
theorem pieces?_escapeChar (c : Char) (cs : List Char) :
    pieces? (escapeChar c ++ cs) = (pieces? cs).map (prependChar c) := by
  rw [escapeChar]
  split_ifs with hquote hslash _ _ _ _ _ hcontrol
  any_goals
    subst c
    exact pieces?_backslash rfl
  · exact pieces?_escapeControl hcontrol
  · exact pieces?_plain hquote hslash hcontrol

theorem pieces?_escape (cs rest : List Char) :
    pieces? (cs.flatMap escapeChar ++ '"' :: rest) = some (cs.map .char, rest) := by
  induction cs with
  | nil => rfl
  | cons c cs ih =>
    rw [List.flatMap_cons, List.append_assoc, pieces?_escapeChar, ih]
    rfl

theorem join?_map_char (cs : List Char) : join? (cs.map .char) = some cs := by
  induction cs with
  | nil => rfl
  | cons c cs ih => rw [List.map_cons, join?, ih, Option.map_some]

/-- **A written string is read back**, behind its opening quote and in front of anything. -/
theorem readText?_escape (s : String) (rest : List Char) :
    readText? (s.toList.flatMap escapeChar ++ '"' :: rest) = some (some s, rest) := by
  rw [readText?, pieces?_escape]
  simp [join?_map_char]

/-! ## What stands behind a value -/

/-- **What may stand behind a value**: nothing, a blank, a comma or a closing bracket. -/
inductive EndsValue : List Char → Prop where
  | nothing : EndsValue []
  | space (rest : List Char) : EndsValue (' ' :: rest)
  | tab (rest : List Char) : EndsValue ('\t' :: rest)
  | lineFeed (rest : List Char) : EndsValue ('\n' :: rest)
  | carriageReturn (rest : List Char) : EndsValue ('\r' :: rest)
  | comma (rest : List Char) : EndsValue (',' :: rest)
  | bracket (rest : List Char) : EndsValue (']' :: rest)
  | brace (rest : List Char) : EndsValue ('\x7d' :: rest)

theorem eq_of_isSpace (h : isSpace c = true) : c = ' ' ∨ c = '\t' ∨ c = '\n' ∨ c = '\r' := by
  simpa [isSpace, or_assoc] using h

theorem EndsValue.of_isSpace (h : isSpace c = true) (rest : List Char) : EndsValue (c :: rest) := by
  obtain rfl | rfl | rfl | rfl := eq_of_isSpace h
  · exact .space rest
  · exact .tab rest
  · exact .lineFeed rest
  · exact .carriageReturn rest

/-! ## Whole numbers -/

/-- Only zero is written with a zero in front. -/
theorem eq_nil_of_toDigits {n : Nat} {tail : List Char} (h : Nat.toDigits 10 n = '0' :: tail) :
    tail = [] := by
  induction n using Nat.strongRecOn generalizing tail with
  | _ n ih =>
    by_cases hsmall : n < 10
    · rw [Nat.toDigits_of_lt_base hsmall] at h
      exact (List.cons.inj h).2.symm
    · rw [Nat.toDigits_of_base_le (by decide) (by omega)] at h
      cases hfront : Nat.toDigits 10 (n / 10) with
      | nil => exact absurd hfront Nat.toDigits_ne_nil
      | cons c front =>
        rw [hfront, List.cons_append] at h
        obtain ⟨rfl, -⟩ := List.cons.inj h
        obtain rfl := ih (n / 10) (by omega) hfront
        have hvalue : Nat.ofDigitChars 10 ['0'] 0 = n / 10 := by
          rw [← hfront, Nat.ofDigitChars_ten_toDigits]
        have hzero : Nat.ofDigitChars 10 ['0'] 0 = 0 := rfl
        omega

/-- **A run of digits is read up to its end.** -/
theorem readDigits?_append {digits : List Char} (hsome : digits ≠ [])
    (hdigits : ∀ d ∈ digits, d.isDigit = true) (hrest : EndsValue rest) :
    readDigits? (digits ++ rest) = some (digits, rest) := by
  have htake : rest.takeWhile Char.isDigit = [] := by
    cases hrest <;> rfl
  have hdrop : rest.dropWhile Char.isDigit = rest := by
    cases hrest <;> rfl
  rw [readDigits?, List.takeWhile_append_of_pos hdigits, List.dropWhile_append_of_pos hdigits,
    htake, hdrop, List.append_nil]
  cases digits with
  | nil => exact absurd rfl hsome
  | cons => rfl

/-- The digits of a number are read as its whole part, also where they are a zero alone. -/
theorem readWhole?_toDigits (n : Nat) (hrest : EndsValue rest) :
    readWhole? (Nat.toDigits 10 n ++ rest) = some (Nat.toDigits 10 n, rest) := by
  have hread := readDigits?_append Nat.toDigits_ne_nil (fun _ => isDigit_of_mem_toDigits (n := n)) hrest
  cases hdigits : Nat.toDigits 10 n with
  | nil => exact absurd hdigits Nat.toDigits_ne_nil
  | cons d tail =>
    rw [hdigits] at hread
    by_cases hzero : d = '0'
    · subst hzero
      obtain rfl := eq_nil_of_toDigits hdigits
      rfl
    · rw [readWhole?]
      · exact hread
      · simpa using hzero

theorem readUnsigned?_toDigits (negative : Bool) (n : Nat) (hrest : EndsValue rest) :
    readUnsigned? negative (Nat.toDigits 10 n ++ rest) = some (.whole negative n, rest) := by
  have hfraction : readFraction? rest = some (none, rest) := by
    cases hrest <;> rfl
  have hexponent : readExponent? rest = some (none, rest) := by
    cases hrest <;> rfl
  rw [readUnsigned?, readWhole?_toDigits n hrest]
  simp [hfraction, hexponent, digitsValue_toDigits]

/-- **A written whole number is read back.** -/
theorem readNumber?_whole (negative : Bool) (n : Nat) (hrest : EndsValue rest) :
    readNumber? (writeNumber (.whole negative n) ++ rest) = some (.whole negative n, rest) := by
  have hread := readUnsigned?_toDigits negative n hrest
  rw [writeNumber, toList_toString, writeSign]
  cases negative with
  | true => exact hread
  | false =>
    rw [if_neg (by decide), List.nil_append]
    cases hdigits : Nat.toDigits 10 n with
    | nil => exact absurd hdigits Nat.toDigits_ne_nil
    | cons d tail =>
      have hdigit : d.isDigit = true := isDigit_of_mem_toDigits (n := n) (by simp [hdigits])
      have hsign : d ≠ '-' := by
        rintro rfl
        cases hdigit
      rw [hdigits] at hread
      rw [readNumber?]
      · exact hread
      · simpa using hsign

end DatasetHosting.Json
