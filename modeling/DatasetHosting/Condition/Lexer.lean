import DatasetHosting.Condition.Token
import DatasetHosting.Text.Alphabetic
import DatasetHosting.Text.Blank
import DatasetHosting.Text.Numeric
import DatasetHosting.Text.Whole

/-!
# Condition/Lexer — from characters to tokens

The lexer takes the longest lexeme at each place and passes over white space. A lexeme is read by
`lexeme` from its first character; every reader returns a rest that is no longer than what it was given,
which is what makes `tokens` end.
-/

namespace DatasetHosting.Condition

open DatasetHosting.Text

/-- Why a text does not split into tokens. -/
inductive LexError where
  /-- An equals or exclamation sign that no equals sign follows. -/
  | loneSign (sign : Char)
  /-- A quoted text without its closing quote. -/
  | unterminatedText
  /-- A number above the largest signed number of 64 bits. -/
  | numberOutOfRange (digits : String)
  /-- A character that starts no token. -/
  | unexpectedCharacter (c : Char)
  deriving DecidableEq, Repr

/-- The wording of a lexer error. -/
def LexError.message : LexError → String
  | loneSign sign => s!"expected '{sign}=' not '{sign}'"
  | unterminatedText => "unterminated string literal"
  | numberOutOfRange digits => s!"number literal {digits} is out of range"
  | unexpectedCharacter c => s!"unexpected character: '{c}'"

/-! ## Lexemes -/

/-- Characters a word starts with. -/
def isWordStart (c : Char) : Bool :=
  isAlphabetic c || c == '_'

/-- Characters a word goes on with. -/
def isWordChar (c : Char) : Bool :=
  isAlphabetic c || isNumeric c || c == '_'

/-- The four characters a comparison sign starts with. -/
def isSignStart (c : Char) : Bool :=
  c == '=' || c == '!' || c == '<' || c == '>'

/-- The sign that `c` begins and an equals sign ends. -/
def signWithEquals (c : Char) : Comparison :=
  if c = '=' then .equal else if c = '!' then .notEqual
  else if c = '<' then .lessOrEqual else .greaterOrEqual

/-- The sign that `c` is on its own. -/
def signAlone? (c : Char) : Option Comparison :=
  if c = '<' then some .less else if c = '>' then some .greater else none

/-- A comparison sign that starts with `c`; an equals sign right behind always belongs to it. -/
def signLexeme (c : Char) : List Char → Except LexError (Token × List Char)
  | '=' :: rest => .ok (.comparison (signWithEquals c), rest)
  | rest =>
    match signAlone? c with
    | some sign => .ok (.comparison sign, rest)
    | none => .error (.loneSign c)

/-- A quoted text behind its opening quote: everything up to the next quote of the same kind. -/
def textLexeme (quote : Char) (rest : List Char) : Except LexError (Token × List Char) :=
  match rest.dropWhile (· != quote) with
  | [] => .error .unterminatedText
  | _ :: after => .ok (.text (String.ofList (rest.takeWhile (· != quote))), after)

/-- A number that starts with the digit `c`: all digits that follow, if 64 bits hold the value. -/
def numberLexeme (c : Char) (rest : List Char) : Except LexError (Token × List Char) :=
  let digits := c :: rest.takeWhile Char.isDigit
  match readInt64? digits with
  | some _ => .ok (.number (String.ofList digits), rest.dropWhile Char.isDigit)
  | none => .error (.numberOutOfRange (String.ofList digits))

/-- The token of a word: the connectives and truth values in exactly their spelling, or an identifier. -/
def wordToken (word : String) : Token :=
  if word = "AND" then .and
  else if word = "OR" then .or
  else if word = "NOT" then .not
  else if word = "true" then .boolean true
  else if word = "false" then .boolean false
  else .identifier word

/-- The lexeme that starts with the character `c`, and what follows it. -/
def lexeme (c : Char) (rest : List Char) : Except LexError (Token × List Char) :=
  if c = '(' then .ok (.leftParen, rest)
  else if c = ')' then .ok (.rightParen, rest)
  else if isSignStart c then signLexeme c rest
  else if c = '\'' ∨ c = '"' then textLexeme c rest
  else if c.isDigit then numberLexeme c rest
  else if isWordStart c then
    .ok (wordToken (String.ofList (c :: rest.takeWhile isWordChar)), rest.dropWhile isWordChar)
  else .error (.unexpectedCharacter c)

/-! ## What a lexeme leaves -/

theorem length_dropWhile_le {α : Type} (p : α → Bool) (l : List α) :
    (l.dropWhile p).length ≤ l.length :=
  (List.dropWhile_sublist p).length_le

/-- Comparison signs are read from the front. -/
theorem signLexeme_length {c : Char} {rest after : List Char} {t : Token}
    (h : signLexeme c rest = .ok (t, after)) : after.length ≤ rest.length := by
  unfold signLexeme at h
  split at h
  · obtain ⟨-, rfl⟩ := Prod.mk.inj (Except.ok.inj h)
    simp
  · split at h
    · obtain ⟨-, rfl⟩ := Prod.mk.inj (Except.ok.inj h)
      exact Nat.le_refl _
    · cases h

/-- A quoted text ends within what is left. -/
theorem textLexeme_length {q : Char} {rest after : List Char} {t : Token}
    (h : textLexeme q rest = .ok (t, after)) : after.length ≤ rest.length := by
  unfold textLexeme at h
  split at h
  · cases h
  · next hd =>
    obtain ⟨-, rfl⟩ := Prod.mk.inj (Except.ok.inj h)
    have := length_dropWhile_le (· != q) rest
    rw [hd, List.length_cons] at this
    omega

/-- So does a number. -/
theorem numberLexeme_length {c : Char} {rest after : List Char} {t : Token}
    (h : numberLexeme c rest = .ok (t, after)) : after.length ≤ rest.length := by
  simp only [numberLexeme] at h
  split at h
  · obtain ⟨-, rfl⟩ := Prod.mk.inj (Except.ok.inj h)
    exact length_dropWhile_le _ _
  · cases h

/-- **A lexeme never lengthens the rest**, so reading on past it comes to an end. -/
theorem lexeme_length {c : Char} {rest after : List Char} {t : Token}
    (h : lexeme c rest = .ok (t, after)) : after.length ≤ rest.length := by
  unfold lexeme at h
  split at h
  · obtain ⟨-, rfl⟩ := Prod.mk.inj (Except.ok.inj h); exact Nat.le_refl _
  split at h
  · obtain ⟨-, rfl⟩ := Prod.mk.inj (Except.ok.inj h); exact Nat.le_refl _
  split at h
  · exact signLexeme_length h
  split at h
  · exact textLexeme_length h
  split at h
  · exact numberLexeme_length h
  split at h
  · obtain ⟨-, rfl⟩ := Prod.mk.inj (Except.ok.inj h); exact length_dropWhile_le _ _
  · cases h

/-! ## The token list -/

/-- **All tokens of a text**, in order. -/
def tokens : List Char → Except LexError (List Token)
  | [] => .ok []
  | c :: rest =>
    if isBlank c then tokens rest
    else
      match h : lexeme c rest with
      | .error e => .error e
      | .ok (t, after) =>
        have : after.length ≤ rest.length := lexeme_length h
        (tokens after).map (t :: ·)
termination_by cs => cs.length

/-- The tokens of a condition text. -/
def tokenize (source : String) : Except LexError (List Token) :=
  tokens source.toList

@[simp] theorem tokens_nil : tokens [] = .ok [] := by
  rw [tokens]

/-- Blanks in front are skipped. -/
theorem tokens_cons_of_blank {c : Char} (h : isBlank c) (rest : List Char) :
    tokens (c :: rest) = tokens rest := by
  rw [tokens, if_pos h]

/-- Where no lexeme starts the whole text fails. -/
theorem tokens_cons_of_error {c : Char} {rest : List Char} {e : LexError} (hb : isBlank c = false)
    (h : lexeme c rest = .error e) : tokens (c :: rest) = .error e := by
  rw [tokens, if_neg (by simp [hb])]
  split
  · next e' h' => rw [h] at h'; cases h'; rfl
  · next h' => rw [h] at h'; cases h'

/-- A lexeme in front is the first token, and what is behind it is read on its own. -/
theorem tokens_cons_of_lexeme {c : Char} {rest after : List Char} {t : Token}
    (hb : isBlank c = false) (h : lexeme c rest = .ok (t, after)) :
    tokens (c :: rest) = (tokens after).map (t :: ·) := by
  rw [tokens, if_neg (by simp [hb])]
  split
  · next h' => rw [h] at h'; cases h'
  · next h' => rw [h] at h'; cases h'; rfl

end DatasetHosting.Condition
