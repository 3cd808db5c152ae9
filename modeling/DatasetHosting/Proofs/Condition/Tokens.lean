import DatasetHosting.Proofs.Condition.Lexeme

/-!
# Proofs/Condition/Tokens — a text splits in one way

A text splits into white space and lexemes, each of which goes on as far as it can (`Splits`).  The lexer
finds the tokens of exactly these splittings (`tokens_eq_ok_iff`).  As no lexeme takes white space in, texts
with white space between them split one after the other (`Splits.append_blank`).
-/

namespace DatasetHosting.Condition

open DatasetHosting.Text

variable {c : Char} {cs ds rest : List Char} {t : Token} {ts us : List Token}

/-- **The characters split into white space and lexemes that spell the tokens**, where no lexeme could have
gone on. -/
inductive Splits : List Char → List Token → Prop where
  | nil : Splits [] []
  | blank {c : Char} {cs : List Char} {ts : List Token} (hblank : isBlank c = true)
      (hrest : Splits cs ts) : Splits (c :: cs) ts
  | lexeme {t : Token} {cs rest : List Char} {ts : List Token} (hspelled : t.Spelled cs)
      (hend : t.EndsAt rest) (hrest : Splits rest ts) : Splits (cs ++ rest) (t :: ts)

/-! ## White space between lexemes -/

theorem isWordChar_of_isBlank (h : isBlank c = true) : isWordChar c = false := by
  have hunder : (c == '_') = false := beq_eq_false_iff_ne.mpr (ne_of_class h (by decide))
  rw [isWordChar, isAlphabetic_of_isBlank h, isNumeric_of_isBlank h, hunder]
  rfl

theorem isWordStart_of_isBlank (h : isBlank c = true) : isWordStart c = false := by
  have hunder : (c == '_') = false := beq_eq_false_iff_ne.mpr (ne_of_class h (by decide))
  rw [isWordStart, isAlphabetic_of_isBlank h, hunder]
  rfl

/-- **White space belongs to no lexeme.** -/
theorem Token.absorbs_of_isBlank (t : Token) (h : isBlank c = true) : t.absorbs c = false := by
  have hequals : (c == '=') = false := beq_eq_false_iff_ne.mpr (ne_of_class h (by decide))
  cases t with
  | comparison sign => cases sign <;> first | exact hequals | rfl
  | number digits => exact isDigit_of_isBlank h
  | identifier | boolean | and | or | not => exact isWordChar_of_isBlank h
  | text | leftParen | rightParen => rfl

theorem Token.endsAt_nil (t : Token) : t.EndsAt [] := by
  rintro d more ⟨⟩

theorem Token.endsAt_of_isBlank (t : Token) (h : isBlank c = true) (rest : List Char) :
    t.EndsAt (c :: rest) := by
  rintro d more ⟨⟩
  exact t.absorbs_of_isBlank h

/-- …and starts none. -/
theorem lexeme_of_isBlank (h : isBlank c = true) (rest : List Char) :
    lexeme c rest = .error (.unexpectedCharacter c) := by
  rw [lexeme_of_class h (by decide), if_neg (by simp [isDigit_of_isBlank h]),
    if_neg (by simp [isWordStart_of_isBlank h])]

theorem isBlank_of_lexeme {after : List Char} (h : lexeme c rest = .ok (t, after)) :
    isBlank c = false := by
  rw [Bool.eq_false_iff]
  intro hblank
  rw [lexeme_of_isBlank hblank] at h
  cases h

/-! ## The lexer and the splittings -/

/-- Every token takes up room. -/
theorem Token.Spelled.exists_cons (h : t.Spelled cs) : ∃ c more, cs = c :: more := by
  refine List.exists_cons_of_ne_nil ?_
  cases h with
  | leftParen | rightParen | text => exact List.cons_ne_nil _ _
  | sign sign => cases sign <;> decide
  | number hsome => exact hsome
  | and | or | not | true | false => decide
  | identifier hname =>
    intro hnil
    have hword := hname.1
    rw [hnil] at hword
    cases hword

theorem tokens_of_splits (h : Splits cs ts) : tokens cs = .ok ts := by
  induction h with
  | nil => exact tokens_nil
  | blank hblank _ ih => rw [tokens_cons_of_blank hblank, ih]
  | lexeme hspelled hend _ ih =>
    obtain ⟨c, more, rfl⟩ := hspelled.exists_cons
    have hlexeme := hspelled.lexeme_append hend
    rw [List.cons_append, tokens_cons_of_lexeme (isBlank_of_lexeme hlexeme) hlexeme, ih]
    rfl

theorem splits_of_tokens (h : tokens cs = .ok ts) : Splits cs ts := by
  induction cs using tokens.induct generalizing ts with
  | case1 =>
    rw [tokens_nil] at h
    obtain rfl := Except.ok.inj h
    exact .nil
  | case2 c rest hblank ih =>
    rw [tokens_cons_of_blank hblank] at h
    exact .blank hblank (ih h)
  | case3 c rest hblank e hlexeme =>
    rw [tokens_cons_of_error (by simpa using hblank) hlexeme] at h
    cases h
  | case4 c rest hblank t after hlexeme _ ih =>
    rw [tokens_cons_of_lexeme (by simpa using hblank) hlexeme] at h
    obtain ⟨lexeme, rfl, hspelled, hend⟩ := lexeme_eq_ok_iff.mp hlexeme
    cases hafter : tokens after with
    | error e =>
      rw [hafter] at h
      cases h
    | ok behind =>
      rw [hafter] at h
      obtain rfl := Except.ok.inj h
      exact .lexeme hspelled hend (ih hafter)

/-- **The lexer finds exactly the tokens that the characters split into.** -/
theorem tokens_eq_ok_iff : tokens cs = .ok ts ↔ Splits cs ts :=
  ⟨splits_of_tokens, tokens_of_splits⟩

/-! ## Seams -/

/-- A token that ends at either of two texts ends at one in front of the other. -/
theorem Token.EndsAt.append (h : t.EndsAt cs) (hseam : t.EndsAt ds) :
    t.EndsAt (cs ++ ds) := by
  intro d more hd
  cases cs with
  | nil => exact hseam d more hd
  | cons first rest =>
    obtain ⟨rfl, -⟩ := List.cons.inj hd
    exact h first rest rfl

/-- **Texts split one after the other** if no lexeme of the first goes on into the second. -/
theorem Splits.append (h : Splits cs ts) (hseam : ∀ t : Token, t.EndsAt ds) (h' : Splits ds us) :
    Splits (cs ++ ds) (ts ++ us) := by
  induction h with
  | nil => exact h'
  | blank hblank _ ih => exact .blank hblank ih
  | lexeme hspelled hend _ ih =>
    rw [List.append_assoc]
    exact .lexeme hspelled (hend.append (hseam _)) ih

/-- A closing parenthesis belongs to no lexeme in front of it. -/
theorem Token.endsAt_rightParen (t : Token) (rest : List Char) : t.EndsAt (')' :: rest) := by
  rintro d more ⟨⟩
  have hword : isWordChar ')' = false := by decide +kernel
  cases t with
  | comparison sign => cases sign <;> rfl
  | identifier | boolean | and | or | not => exact hword
  | number | text | leftParen | rightParen => rfl

/-- White space is a seam that no lexeme crosses. -/
theorem Splits.append_blank (h : Splits cs ts) (hblank : isBlank c = true) (h' : Splits ds us) :
    Splits (cs ++ c :: ds) (ts ++ us) :=
  h.append (fun t => t.endsAt_of_isBlank hblank ds) (.blank hblank h')

theorem Splits.append_space (h : Splits cs ts) (h' : Splits ds us) :
    Splits (cs ++ ' ' :: ds) (ts ++ us) :=
  h.append_blank rfl h'

/-- A lexeme alone splits into its token. -/
theorem Token.Spelled.splits {t : Token} (h : t.Spelled cs) : Splits cs [t] := by
  have hsplit : Splits (cs ++ []) [t] := .lexeme h t.endsAt_nil .nil
  rwa [List.append_nil] at hsplit

/-! ## Longest match -/

/-- **A text has tokens exactly if it splits**, and they are the tokens of the splitting.  Whatever splits in no
way is an error, and white space between two texts keeps their tokens apart. -/
theorem tokenize_longest_match :
    (∀ source ts, tokenize source = .ok ts ↔ Splits source.toList ts) ∧
      (∀ source, (∃ e, tokenize source = .error e) ↔ ∀ ts, ¬Splits source.toList ts) ∧
      ∀ left right w ts us, isBlank w = true → tokenize left = .ok ts → tokenize right = .ok us →
        tokenize (left ++ String.singleton w ++ right) = .ok (ts ++ us) := by
  refine ⟨fun _ _ => tokens_eq_ok_iff, fun source => ?_, fun left right w ts us hblank hl hr => ?_⟩
  · constructor
    · rintro ⟨e, herror⟩ ts hsplits
      have hok : tokenize source = .ok ts := tokens_of_splits hsplits
      rw [herror] at hok
      cases hok
    · intro hnone
      cases htokens : tokenize source with
      | error e => exact ⟨e, rfl⟩
      | ok ts => exact absurd (splits_of_tokens htokens) (hnone ts)
  · have hsplits := (splits_of_tokens hl).append_blank hblank (splits_of_tokens hr)
    refine tokens_of_splits ?_
    simpa using hsplits

/-- Lexemes that no space separates, and a wide space in front of a quoted one. -/
theorem tokenize_across_wide_space :
    isBlank '\u3000' = true ∧
      tokenize "format>=8" =
        .ok [.identifier "format", .comparison .greaterOrEqual, .number "8"] ∧
      tokenize "'a b'" = .ok [.text "a b"] ∧
      tokenize ("format>=8" ++ String.singleton '\u3000' ++ "'a b'") =
        .ok [.identifier "format", .comparison .greaterOrEqual, .number "8", .text "a b"] := by
  have hblank : isBlank '\u3000' = true := by decide
  have hname : (Token.identifier "format").Spelled "format".toList := .identifier (by decide +kernel)
  have hsign : (Token.comparison .greaterOrEqual).Spelled ">=".toList := .sign .greaterOrEqual
  have hnumber : (Token.number "8").Spelled "8".toList :=
    .number (by decide) (List.all_eq_true.mp rfl) (by decide)
  have hends : (Token.identifier "format").EndsAt (">=".toList ++ "8".toList) := by
    rintro d more ⟨⟩
    decide +kernel
  have hleft : tokenize "format>=8" =
      .ok [.identifier "format", .comparison .greaterOrEqual, .number "8"] :=
    tokens_of_splits (.lexeme hname hends (.lexeme hsign (fun _ _ _ => rfl) hnumber.splits))
  have hright : tokenize "'a b'" = .ok [.text "a b"] := by
    have htext : (Token.text "a b").Spelled "'a b'".toList := .text (.inl rfl) (by decide)
    exact tokens_of_splits htext.splits
  exact ⟨hblank, hleft, hright, tokenize_longest_match.2.2 _ _ _ _ _ hblank hleft hright⟩

end DatasetHosting.Condition
