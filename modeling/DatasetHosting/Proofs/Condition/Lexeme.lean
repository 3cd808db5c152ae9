import DatasetHosting.Condition.Lexer
import DatasetHosting.Proofs.Text.Classes
import DatasetHosting.Proofs.Text.Whole

/-!
# Proofs/Condition/Lexeme — what the lexer takes for a token

A token is spelled by certain characters (`Token.Spelled`), and some characters would belong to its lexeme
if they stood right behind it (`Token.absorbs`): an equals sign behind `<`, a digit behind a number, a word
character behind a word.  The lexer reads a token exactly if it is spelled out and what follows is not
absorbed (`lexeme_eq_ok_iff`).
-/

namespace DatasetHosting.Condition

open DatasetHosting.Text

variable {c d : Char} {cs rest after : List Char} {t : Token} {ts : List Token}

/-! ## Spelling -/

/-- The words that are not identifiers. -/
def reservedWords : List String :=
  ["AND", "OR", "NOT", "true", "false"]

/-- **Whether the characters are a word**: one that starts it, and more that go on with it. -/
def isWord : List Char → Bool
  | [] => false
  | c :: cs => isWordStart c && cs.all isWordChar

/-- **A name**: a word that is not reserved. -/
def IsName (name : String) : Prop :=
  isWord name.toList = true ∧ name ∉ reservedWords

instance (name : String) : Decidable (IsName name) :=
  inferInstanceAs (Decidable (_ ∧ _))

/-- The two characters that quote a text. -/
def IsQuote (c : Char) : Prop :=
  c = '\'' ∨ c = '"'

/-- **The characters spell the token.** -/
inductive Token.Spelled : Token → List Char → Prop where
  | leftParen : Spelled .leftParen ['(']
  | rightParen : Spelled .rightParen [')']
  | sign (sign : Comparison) : Spelled (.comparison sign) sign.symbol.toList
  | text {quote : Char} {value : String} (hquote : IsQuote quote)
      (havoids : quote ∉ value.toList) :
      Spelled (.text value) (quote :: (value.toList ++ [quote]))
  | number {digits : String} (hsome : digits.toList ≠ [])
      (hdigits : ∀ d ∈ digits.toList, d.isDigit = true)
      (hfits : (digitsValue 0 digits.toList : Int) ≤ maxInt64) :
      Spelled (.number digits) digits.toList
  | and : Spelled .and "AND".toList
  | or : Spelled .or "OR".toList
  | not : Spelled .not "NOT".toList
  | true : Spelled (.boolean Bool.true) "true".toList
  | false : Spelled (.boolean Bool.false) "false".toList
  | identifier {name : String} (hname : IsName name) : Spelled (.identifier name) name.toList

/-- **Whether the lexeme of the token would take the character in as well.** -/
def Token.absorbs : Token → Char → Bool
  | comparison .less, d => d == '='
  | comparison .greater, d => d == '='
  | number _, d => d.isDigit
  | identifier _, d => isWordChar d
  | boolean _, d => isWordChar d
  | and, d => isWordChar d
  | or, d => isWordChar d
  | not, d => isWordChar d
  | _, _ => false

/-- The characters behind a token are no part of it. -/
def Token.EndsAt (t : Token) (rest : List Char) : Prop :=
  ∀ d more, rest = d :: more → t.absorbs d = false

/-! ## Which reader a character calls for -/

/-- A class that has one character and not another tells the two apart. -/
theorem ne_of_class {p : Char → Bool} (hc : p c = true) (hd : p d = false) : c ≠ d := by
  rintro rfl
  rw [hc] at hd
  cases hd

/-- No digit starts a word. -/
theorem isDigit_of_isWordStart (h : isWordStart c = true) : c.isDigit = false := by
  rw [Bool.eq_false_iff]
  intro hdigit
  rcases Bool.or_eq_true_iff.mp h with halpha | hunder
  · rw [isAlphabetic_of_isDigit hdigit] at halpha
    cases halpha
  · rw [beq_iff_eq.mp hunder] at hdigit
    cases hdigit

/-- The class of the first character decides which token is read: a sign, -/
theorem lexeme_of_isSignStart (h : isSignStart c = true) (rest : List Char) :
    lexeme c rest = signLexeme c rest := by
  have hleft : c ≠ '(' := ne_of_class h (by decide)
  have hright : c ≠ ')' := ne_of_class h (by decide)
  rw [lexeme, if_neg hleft, if_neg hright, if_pos h]

/-- a quoted text, -/
theorem lexeme_of_isQuote (h : IsQuote c) (rest : List Char) :
    lexeme c rest = textLexeme c rest := by
  rcases h with rfl | rfl <;> simp [lexeme, isSignStart]

/-- The characters that call for a reader by themselves. -/
def marks : List Char :=
  ['(', ')', '=', '!', '<', '>', '\'', '"']

/-- **A class without marks** leaves the choice to digits and words. -/
theorem lexeme_of_class {p : Char → Bool} (hc : p c = true) (hmarks : marks.any p = false)
    (rest : List Char) :
    lexeme c rest =
      if c.isDigit then numberLexeme c rest
      else if isWordStart c then
        .ok (wordToken (String.ofList (c :: rest.takeWhile isWordChar)),
          rest.dropWhile isWordChar)
      else .error (.unexpectedCharacter c) := by
  have hne : ∀ mark ∈ marks, c ≠ mark := fun mark hmark =>
    ne_of_class hc (Bool.eq_false_iff.mpr (List.any_eq_false.mp hmarks mark hmark))
  simp only [marks, List.forall_mem_cons] at hne
  obtain ⟨hleft, hright, hequal, hnot, hless, hgreater, hsingle, hdouble, -⟩ := hne
  have hsign : isSignStart c = false := by simp [isSignStart, hequal, hnot, hless, hgreater]
  rw [lexeme, if_neg hleft, if_neg hright, if_neg (by simp [hsign]),
    if_neg (not_or.mpr ⟨hsingle, hdouble⟩)]

/-- a number, -/
theorem lexeme_of_isDigit (h : c.isDigit = true) (rest : List Char) :
    lexeme c rest = numberLexeme c rest := by
  rw [lexeme_of_class h (by decide), if_pos h]

/-- or a word, with all the word characters that follow. -/
theorem lexeme_of_isWordStart (h : isWordStart c = true) (rest : List Char) :
    lexeme c rest =
      .ok (wordToken (String.ofList (c :: rest.takeWhile isWordChar)),
        rest.dropWhile isWordChar) := by
  rw [lexeme_of_class h (by decide +kernel), if_neg (by simp [isDigit_of_isWordStart h]), if_pos h]

/-! ## Runs of characters -/

/-- A run ends where its class does. -/
theorem takeWhile_append {p : Char → Bool} (hcs : ∀ d ∈ cs, p d = true)
    (hend : ∀ d more, rest = d :: more → p d = false) :
    (cs ++ rest).takeWhile p = cs ∧ (cs ++ rest).dropWhile p = rest := by
  rw [List.takeWhile_append_of_pos hcs, List.dropWhile_append_of_pos hcs]
  cases rest with
  | nil => simp
  | cons d more => simp [hend d more rfl]

/-- What stands behind a longest run does not belong to it. -/
theorem eq_false_of_dropWhile {p : Char → Bool} {more : List Char}
    (h : rest.dropWhile p = d :: more) : p d = false := by
  have hhead := List.head?_dropWhile_not p rest
  rw [h] at hhead
  exact hhead

theorem forall_mem_takeWhile {p : Char → Bool} : ∀ d ∈ rest.takeWhile p, p d = true :=
  List.all_eq_true.mp List.all_takeWhile

/-! ## Comparison signs -/

theorem isSignStart_iff : isSignStart c = true ↔ c = '=' ∨ c = '!' ∨ c = '<' ∨ c = '>' := by
  simp [isSignStart, or_assoc]

/-- A sign before `=` takes it along, and then nothing can lengthen it. -/
theorem spelled_signWithEquals (h : isSignStart c = true) :
    (Token.comparison (signWithEquals c)).Spelled [c, '='] ∧
      (Token.comparison (signWithEquals c)).EndsAt after := by
  rcases isSignStart_iff.mp h with rfl | rfl | rfl | rfl
  · exact ⟨.sign .equal, fun _ _ _ => rfl⟩
  · exact ⟨.sign .notEqual, fun _ _ _ => rfl⟩
  · exact ⟨.sign .lessOrEqual, fun _ _ _ => rfl⟩
  · exact ⟨.sign .greaterOrEqual, fun _ _ _ => rfl⟩

/-- A sign on its own ends at anything but an equals sign. -/
theorem spelled_signAlone {sign : Comparison} (h : signAlone? c = some sign)
    (hend : ∀ more, after ≠ '=' :: more) :
    (Token.comparison sign).Spelled [c] ∧ (Token.comparison sign).EndsAt after := by
  have hne : ∀ d more, after = d :: more → (d == '=') = false := by
    rintro d more rfl
    exact beq_eq_false_iff_ne.mpr fun hd => hend more (hd ▸ rfl)
  rw [signAlone?] at h
  split at h
  · next hc =>
    obtain rfl := Option.some.inj h
    exact ⟨hc ▸ .sign .less, hne⟩
  · split at h
    · next hc =>
      obtain rfl := Option.some.inj h
      exact ⟨hc ▸ .sign .greater, hne⟩
    · cases h

/-- What is read of a sign is spelled so, and ends there. -/
theorem signLexeme_sound (hc : isSignStart c = true) (h : signLexeme c rest = .ok (t, after)) :
    ∃ cs, rest = cs ++ after ∧ t.Spelled (c :: cs) ∧ t.EndsAt after := by
  rw [signLexeme.eq_def] at h
  split at h
  · next behind =>
    obtain ⟨rfl, rfl⟩ := Prod.mk.inj (Except.ok.inj h)
    exact ⟨['='], rfl, spelled_signWithEquals hc⟩
  · next hne =>
    split at h
    · next sign hsign =>
      obtain ⟨rfl, rfl⟩ := Prod.mk.inj (Except.ok.inj h)
      exact ⟨[], rfl, spelled_signAlone hsign hne⟩
    · cases h

/-- **A sign is read whole**, whatever follows that does not lengthen it. -/
theorem lexeme_sign {sign : Comparison} (hcs : c :: cs = sign.symbol.toList)
    (hend : (Token.comparison sign).EndsAt rest) :
    lexeme c (cs ++ rest) = .ok (.comparison sign, rest) := by
  have hne : ∀ sign', (sign' = .less ∨ sign' = .greater) → sign = sign' →
      ∀ more, rest ≠ '=' :: more := by
    rintro sign' (rfl | rfl) rfl more rfl
    · cases hend '=' more rfl
    · cases hend '=' more rfl
  cases sign with
  | equal | notEqual | lessOrEqual | greaterOrEqual =>
    obtain ⟨rfl, rfl⟩ := List.cons.inj hcs
    rw [lexeme_of_isSignStart rfl]
    rfl
  | less =>
    obtain ⟨rfl, rfl⟩ := List.cons.inj hcs
    rw [lexeme_of_isSignStart rfl, signLexeme]
    · rfl
    · exact hne .less (.inl rfl) rfl
  | greater =>
    obtain ⟨rfl, rfl⟩ := List.cons.inj hcs
    rw [lexeme_of_isSignStart rfl, signLexeme]
    · rfl
    · exact hne .greater (.inr rfl) rfl

/-! ## Quoted texts -/

/-- What is read of a quoted text is spelled so; its second quote ends it. -/
theorem textLexeme_sound (hc : IsQuote c) (h : textLexeme c rest = .ok (t, after)) :
    ∃ cs, rest = cs ++ after ∧ t.Spelled (c :: cs) ∧ t.EndsAt after := by
  rw [textLexeme] at h
  split at h
  · cases h
  · next d behind hdrop =>
    obtain ⟨rfl, rfl⟩ := Prod.mk.inj (Except.ok.inj h)
    obtain rfl : d = c := by simpa using eq_false_of_dropWhile hdrop
    refine ⟨rest.takeWhile (· != d) ++ [d], ?_, ?_, fun _ _ _ => rfl⟩
    · have hsplit := List.takeWhile_append_dropWhile (p := (· != d)) (l := rest)
      rw [hdrop] at hsplit
      simpa using hsplit.symm
    · have havoids : d ∉ rest.takeWhile (· != d) := by
        intro hmem
        simpa using forall_mem_takeWhile d hmem
      have hspelled : (Token.text (String.ofList (rest.takeWhile (· != d)))).Spelled _ :=
        .text hc (by rwa [String.toList_ofList])
      rwa [String.toList_ofList] at hspelled

/-- **A quoted text is read whole**, whatever follows its second quote. -/
theorem lexeme_text {value : String} (hc : IsQuote c) (havoids : c ∉ value.toList)
    (rest : List Char) :
    lexeme c (value.toList ++ [c] ++ rest) = .ok (.text value, rest) := by
  have hin : ∀ d ∈ value.toList, (d != c) = true := by
    rintro d hd
    exact bne_iff_ne.mpr fun h => havoids (h ▸ hd)
  have hend : ∀ d more, c :: rest = d :: more → (d != c) = false := by
    rintro d more ⟨⟩
    simp
  obtain ⟨htake, hdrop⟩ := takeWhile_append hin hend
  rw [lexeme_of_isQuote hc, textLexeme, List.append_assoc, List.singleton_append, hdrop, htake,
    String.ofList_toList]

/-! ## Numbers -/

theorem numberLexeme_sound (hc : c.isDigit = true) (h : numberLexeme c rest = .ok (t, after)) :
    ∃ cs, rest = cs ++ after ∧ t.Spelled (c :: cs) ∧ t.EndsAt after := by
  have hdigits : ∀ d ∈ c :: rest.takeWhile Char.isDigit, d.isDigit = true :=
    List.forall_mem_cons.mpr ⟨hc, forall_mem_takeWhile⟩
  simp only [numberLexeme, readInt64?_of_digits (List.cons_ne_nil _ _) hdigits] at h
  by_cases hfits : (digitsValue 0 (c :: rest.takeWhile Char.isDigit) : Int) ≤ maxInt64
  · rw [if_pos hfits] at h
    obtain ⟨rfl, rfl⟩ := Prod.mk.inj (Except.ok.inj h)
    refine ⟨rest.takeWhile Char.isDigit, List.takeWhile_append_dropWhile.symm, ?_,
      fun d more hmore => eq_false_of_dropWhile hmore⟩
    have hspelled : (Token.number (String.ofList (c :: rest.takeWhile Char.isDigit))).Spelled _ :=
      .number (by simp) (by rwa [String.toList_ofList]) (by rwa [String.toList_ofList])
    rwa [String.toList_ofList] at hspelled
  · rw [if_neg hfits] at h
    cases h

/-- **A number is read whole**, where no digit follows and its value fits a signed word. -/
theorem lexeme_number {digits : String} (hcs : c :: cs = digits.toList)
    (hdigits : ∀ d ∈ digits.toList, d.isDigit = true)
    (hfits : (digitsValue 0 digits.toList : Int) ≤ maxInt64)
    (hend : (Token.number digits).EndsAt rest) :
    lexeme c (cs ++ rest) = .ok (.number digits, rest) := by
  rw [← hcs] at hdigits hfits
  obtain ⟨hc, hmore⟩ := List.forall_mem_cons.mp hdigits
  obtain ⟨htake, hdrop⟩ := takeWhile_append hmore hend
  have hvalue := readInt64?_of_digits (List.cons_ne_nil _ _) hdigits
  rw [if_pos hfits] at hvalue
  rw [lexeme_of_isDigit hc, numberLexeme, htake, hdrop, hvalue, hcs, String.ofList_toList]

/-! ## Words -/

/-- **A word spells the token that its letters name.** -/
theorem spelled_wordToken (h : isWord cs = true) :
    (wordToken (String.ofList cs)).Spelled cs ∧
      ∀ d, (wordToken (String.ofList cs)).absorbs d = isWordChar d := by
  obtain ⟨word, rfl⟩ : ∃ word : String, cs = word.toList := ⟨_, String.toList_ofList.symm⟩
  rw [String.ofList_toList, wordToken]
  split
  · next hw => exact ⟨hw ▸ .and, fun _ => rfl⟩
  split
  · next hw => exact ⟨hw ▸ .or, fun _ => rfl⟩
  split
  · next hw => exact ⟨hw ▸ .not, fun _ => rfl⟩
  split
  · next hw => exact ⟨hw ▸ .true, fun _ => rfl⟩
  split
  · next hw => exact ⟨hw ▸ .false, fun _ => rfl⟩
  · next hand hor hnot htrue hfalse =>
    refine ⟨.identifier ⟨h, ?_⟩, fun _ => rfl⟩
    simp [reservedWords, hand, hor, hnot, htrue, hfalse]

/-- **A word is read whole**, where no word character follows. -/
theorem lexeme_word {word : String} (hcs : c :: cs = word.toList) (hword : isWord word.toList = true)
    (hend : ∀ d more, rest = d :: more → isWordChar d = false) :
    lexeme c (cs ++ rest) = .ok (wordToken word, rest) := by
  rw [← hcs, isWord, Bool.and_eq_true, List.all_eq_true] at hword
  obtain ⟨htake, hdrop⟩ := takeWhile_append hword.2 hend
  rw [lexeme_of_isWordStart hword.1, htake, hdrop, hcs, String.ofList_toList]

theorem wordToken_of_isName {name : String} (h : IsName name) :
    wordToken name = .identifier name := by
  have hne : ∀ word ∈ reservedWords, name ≠ word := by
    rintro word hword rfl
    exact h.2 hword
  simp only [reservedWords, List.forall_mem_cons] at hne
  obtain ⟨hand, hor, hnot, htrue, hfalse, -⟩ := hne
  simp [wordToken, hand, hor, hnot, htrue, hfalse]

/-! ## The lexeme at the front -/

/-- **What is read is a token as it is spelled**, and it ends where reading stopped. -/
theorem lexeme_sound (h : lexeme c rest = .ok (t, after)) :
    ∃ cs, rest = cs ++ after ∧ t.Spelled (c :: cs) ∧ t.EndsAt after := by
  unfold lexeme at h
  split at h
  · next hc =>
    obtain ⟨rfl, rfl⟩ := Prod.mk.inj (Except.ok.inj h)
    exact ⟨[], rfl, hc ▸ .leftParen, fun _ _ _ => rfl⟩
  split at h
  · next hc =>
    obtain ⟨rfl, rfl⟩ := Prod.mk.inj (Except.ok.inj h)
    exact ⟨[], rfl, hc ▸ .rightParen, fun _ _ _ => rfl⟩
  split at h
  · next hc => exact signLexeme_sound hc h
  split at h
  · next hc => exact textLexeme_sound hc h
  split at h
  · next hc => exact numberLexeme_sound hc h
  split at h
  · next hc =>
    obtain ⟨rfl, rfl⟩ := Prod.mk.inj (Except.ok.inj h)
    have hword : isWord (c :: rest.takeWhile isWordChar) = true := by
      rw [isWord, hc, List.all_takeWhile]
      rfl
    obtain ⟨hspelled, habsorbs⟩ := spelled_wordToken hword
    refine ⟨_, List.takeWhile_append_dropWhile.symm, hspelled, fun d more hmore => ?_⟩
    rw [habsorbs]
    exact eq_false_of_dropWhile hmore
  · cases h

/-- **A spelled token is read whole**, where it ends. -/
theorem Token.Spelled.lexeme_append (h : t.Spelled (c :: cs)) (hend : t.EndsAt rest) :
    lexeme c (cs ++ rest) = .ok (t, rest) := by
  generalize hcs : c :: cs = whole at h
  cases h with
  | leftParen =>
    obtain ⟨rfl, rfl⟩ := List.cons.inj hcs
    rfl
  | rightParen =>
    obtain ⟨rfl, rfl⟩ := List.cons.inj hcs
    rfl
  | sign sign => exact lexeme_sign hcs hend
  | text hquote havoids =>
    obtain ⟨rfl, rfl⟩ := List.cons.inj hcs
    exact lexeme_text hquote havoids rest
  | number hsome hdigits hfits => exact lexeme_number hcs hdigits hfits hend
  | and => exact lexeme_word hcs (by decide +kernel) hend
  | or => exact lexeme_word hcs (by decide +kernel) hend
  | not => exact lexeme_word hcs (by decide +kernel) hend
  | true => exact lexeme_word hcs (by decide +kernel) hend
  | false => exact lexeme_word hcs (by decide +kernel) hend
  | identifier hname =>
    rw [lexeme_word hcs hname.1 hend, wordToken_of_isName hname]

/-- **A lexeme is read exactly if it is spelled out and ends there.** -/
theorem lexeme_eq_ok_iff :
    lexeme c rest = .ok (t, after) ↔
      ∃ cs, rest = cs ++ after ∧ t.Spelled (c :: cs) ∧ t.EndsAt after := by
  constructor
  · exact lexeme_sound
  · rintro ⟨cs, rfl, hspelled, hend⟩
    exact hspelled.lexeme_append hend

end DatasetHosting.Condition
