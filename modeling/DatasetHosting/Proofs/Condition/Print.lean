import DatasetHosting.Proofs.Condition.Evaluation
import DatasetHosting.Proofs.Condition.Grammar
import DatasetHosting.Proofs.Condition.Tokens

/-!
# Proofs/Condition/Print — conditions written back as texts

A tree is written with parentheses only where it would be read differently without them (`Expr.write`), and
its tokens are spelled out with white space between any two (`Written`).  Which quotes and which white space
are taken is open, so a tree has many prints (`Expr.IsPrint`) and `Expr.print` is one of them.  Every print
compiles to the tree again; and whatever compiles has a tree that can be printed.
-/

namespace DatasetHosting.Condition

open DatasetHosting.Text

variable {loose tight : Level} {e : Expr} {t : Token} {ts : List Token} {cs : List Char}

/-! ## Trees as tokens -/

/-- How tightly a level binds. -/
def Level.rank : Level → Nat
  | disjunction => 0
  | conjunction => 1
  | negation => 2
  | primary => 3

/-- The tightest level that a tree has without parentheses. -/
def Expr.level : Expr → Level
  | or .. => .disjunction
  | and .. => .conjunction
  | not _ => .negation
  | comparison .. => .primary
  | boolean _ => .primary

/-- The tokens of a tree where the grammar asks for a level: in parentheses if the tree binds more
loosely. -/
def enclose (level : Level) (e : Expr) (ts : List Token) : List Token :=
  if e.level.rank < level.rank then .leftParen :: (ts ++ [.rightParen]) else ts

/-- The token of an operand.  Every literal is written as a quoted text. -/
def Operand.token : Operand → Token
  | identifier name => .identifier name
  | literal value => .text value

/-- **The tokens of a tree**, with parentheses where precedence and leaning to the left need them: around
`OR` under `AND`, around either under `NOT`, and around a chain to the right of its own connective. -/
def Expr.write : Expr → List Token
  | comparison sign left right => [left.token, .comparison sign, right.token]
  | and left right =>
    enclose .conjunction left left.write ++ .and :: enclose .negation right right.write
  | or left right =>
    enclose .disjunction left left.write ++ .or :: enclose .conjunction right right.write
  | not inner => .not :: enclose .negation inner inner.write
  | boolean value => [.boolean value]

theorem Operand.denotes_token (o : Operand) : o.token.Denotes o := by
  cases o with
  | identifier name => exact .identifier name
  | literal value => exact .text value

/-- What is derived at a level is derived at every looser one. -/
theorem Derives.loosen (h : Derives tight ts e) (hle : loose.rank ≤ tight.rank) :
    Derives loose ts e := by
  cases tight with
  | disjunction =>
    cases loose with
    | disjunction => exact h
    | conjunction | negation | primary => exact absurd hle (by decide)
  | conjunction =>
    cases loose with
    | disjunction => exact .disjunction h
    | conjunction => exact h
    | negation | primary => exact absurd hle (by decide)
  | negation =>
    cases loose with
    | disjunction => exact .disjunction (.conjunction h)
    | conjunction => exact .conjunction h
    | negation => exact h
    | primary => exact absurd hle (by decide)
  | primary =>
    cases loose with
    | disjunction => exact .disjunction (.conjunction (.negation h))
    | conjunction => exact .conjunction (.negation h)
    | negation => exact .negation h
    | primary => exact h

theorem Level.rank_le (level : Level) : level.rank ≤ Level.primary.rank := by
  cases level <;> decide

/-- **With its parentheses a tree is derived at any level.** -/
theorem derives_enclose (h : Derives e.level ts e) (level : Level) :
    Derives level (enclose level e ts) e := by
  rw [enclose]
  split
  · have hparens : Derives .primary (.leftParen :: (ts ++ [.rightParen])) e :=
      .parentheses (h.loosen (Nat.zero_le _))
    exact hparens.loosen level.rank_le
  · next hloose => exact h.loosen (Nat.le_of_not_lt hloose)

/-- **A written tree is derived from its own tokens**, at its own level. -/
theorem Expr.derives_write (e : Expr) : Derives e.level e.write e := by
  induction e with
  | comparison sign left right => exact .comparison sign left.denotes_token right.denotes_token
  | and left right ihl ihr => exact .and (derives_enclose ihl _) (derives_enclose ihr _)
  | or left right ihl ihr => exact .or (derives_enclose ihl _) (derives_enclose ihr _)
  | not inner ih => exact .not (derives_enclose ih _)
  | boolean value => exact .boolean value

/-- **The parser reads the written tree.** -/
theorem parse_write (e : Expr) : parse e.write = .ok e :=
  parse_eq_ok_iff_derives.mpr (e.derives_write.loosen (Nat.zero_le _))

/-! ## Tokens as texts -/

/-- **The characters write the tokens**, with white space between any two. -/
inductive Written : List Token → List Char → Prop where
  | last {t : Token} {cs : List Char} (hspelled : t.Spelled cs) : Written [t] cs
  | more {t : Token} {cs gap text : List Char} {ts : List Token} (hspelled : t.Spelled cs)
      (hgap : gap ≠ []) (hblank : ∀ c ∈ gap, isBlank c = true) (hrest : Written ts text) :
      Written (t :: ts) (cs ++ (gap ++ text))

/-- **The text is a print of the tree.** -/
def Expr.IsPrint (e : Expr) (text : String) : Prop :=
  Written e.write text.toList

theorem splits_append_of_blank {gap text : List Char} (hblank : ∀ c ∈ gap, isBlank c = true)
    (h : Splits text ts) : Splits (gap ++ text) ts := by
  induction gap with
  | nil => exact h
  | cons c gap ih =>
    obtain ⟨hc, hgap⟩ := List.forall_mem_cons.mp hblank
    exact .blank hc (ih hgap)

/-- What is written splits into its tokens, as white space ends every lexeme. -/
theorem Written.splits {text : List Char} (h : Written ts text) : Splits text ts := by
  induction h with
  | @last t cs hspelled =>
    have hsplit : Splits (cs ++ []) [t] := .lexeme hspelled t.endsAt_nil .nil
    rwa [List.append_nil] at hsplit
  | @more t cs gap text ts hspelled hgap hblank _ ih =>
    refine .lexeme hspelled ?_ (splits_append_of_blank hblank ih)
    obtain ⟨c, more, rfl⟩ := List.exists_cons_of_ne_nil hgap
    exact t.endsAt_of_isBlank (hblank c List.mem_cons_self) _

/-- A condition compiles to a tree if its text splits into tokens that parse to it. -/
theorem compile_eq_ok_iff {source : String} :
    compile source = .ok e ↔ ∃ ts, Splits source.toList ts ∧ parse ts = .ok e := by
  rw [compile, tokenize]
  cases htokens : tokens source.toList with
  | error error =>
    refine iff_of_false (by rintro ⟨⟩) ?_
    rintro ⟨ts, hsplits, -⟩
    rw [tokens_of_splits hsplits] at htokens
    cases htokens
  | ok ts =>
    have hsplits := splits_of_tokens htokens
    change (parse ts).mapError CompileError.grammatical = _ ↔ _
    rw [mapError_eq_ok_iff]
    refine ⟨fun h => ⟨ts, hsplits, h⟩, ?_⟩
    rintro ⟨ts', hsplits', h⟩
    rw [tokens_of_splits hsplits'] at htokens
    obtain rfl := Except.ok.inj htokens
    exact h

/-- **Every print compiles to its tree.** -/
theorem Expr.IsPrint.compile {text : String} (h : e.IsPrint text) : compile text = .ok e :=
  compile_eq_ok_iff.mpr ⟨e.write, Written.splits h, parse_write e⟩

/-! ## One print -/

/-- A quote around a text that does not contain it, if one of the two will do. -/
def quoteFor (value : String) : Char :=
  if '\'' ∈ value.toList then '"' else '\''

/-- The characters of a token. -/
def Token.spell : Token → List Char
  | identifier name => name.toList
  | text value => quoteFor value :: (value.toList ++ [quoteFor value])
  | number digits => digits.toList
  | boolean true => "true".toList
  | boolean false => "false".toList
  | comparison sign => sign.symbol.toList
  | and => "AND".toList
  | or => "OR".toList
  | not => "NOT".toList
  | leftParen => ['(']
  | rightParen => [')']

/-- **The print with single spaces**, in single quotes where possible. -/
def Expr.print (e : Expr) : String :=
  .ofList ([' '].intercalate (e.write.map Token.spell))

/-- An operand that can be written: its identifier is a name, or its literal can be quoted. -/
def Operand.IsPrintable : Operand → Prop
  | identifier name => IsName name
  | literal value => ∃ quote, IsQuote quote ∧ quote ∉ value.toList

/-- **A tree that can be printed.** -/
def Expr.IsPrintable : Expr → Prop
  | comparison _ left right => left.IsPrintable ∧ right.IsPrintable
  | and left right => left.IsPrintable ∧ right.IsPrintable
  | or left right => left.IsPrintable ∧ right.IsPrintable
  | not inner => inner.IsPrintable
  | boolean _ => True

/-- A text without one of the quotes can be written in it. -/
theorem spelled_quoteFor {value : String} (h : ∃ quote, IsQuote quote ∧ quote ∉ value.toList) :
    (Token.text value).Spelled (Token.text value).spell := by
  obtain ⟨quote, hquote, havoids⟩ := h
  have hfor : IsQuote (quoteFor value) ∧ quoteFor value ∉ value.toList := by
    rw [quoteFor]
    by_cases hsingle : '\'' ∈ value.toList
    · rw [if_pos hsingle]
      rcases hquote with rfl | rfl
      · exact absurd hsingle havoids
      · exact ⟨.inr rfl, havoids⟩
    · rw [if_neg hsingle]
      exact ⟨.inl rfl, hsingle⟩
  exact .text hfor.1 hfor.2

theorem Operand.spelled_token {o : Operand} (h : o.IsPrintable) : o.token.Spelled o.token.spell := by
  cases o with
  | identifier name => exact .identifier h
  | literal value => exact spelled_quoteFor h

/-- Parentheses add nothing but themselves. -/
theorem forall_mem_enclose {Holds : Token → Prop} (hleft : Holds .leftParen)
    (hright : Holds .rightParen) (hts : ∀ t ∈ ts, Holds t) (level : Level) (e : Expr) :
    ∀ t ∈ enclose level e ts, Holds t := by
  rw [enclose]
  split
  · refine List.forall_mem_cons.mpr ⟨hleft, List.forall_mem_append.mpr ⟨hts, ?_⟩⟩
    exact List.forall_mem_cons.mpr ⟨hright, fun _ h => absurd h List.not_mem_nil⟩
  · exact hts

/-- Each token of a printable tree is spelled by its characters. -/
theorem Expr.spelled_of_mem_write (h : e.IsPrintable) : ∀ t ∈ e.write, t.Spelled t.spell := by
  induction e with
  | comparison sign left right =>
    intro t ht
    simp only [write, List.mem_cons, List.not_mem_nil, or_false] at ht
    rcases ht with rfl | rfl | rfl
    · exact Operand.spelled_token h.1
    · exact .sign sign
    · exact Operand.spelled_token h.2
  | and left right ihl ihr =>
    refine List.forall_mem_append.mpr ⟨?_, List.forall_mem_cons.mpr ⟨.and, ?_⟩⟩
    · exact forall_mem_enclose .leftParen .rightParen (ihl h.1) _ _
    · exact forall_mem_enclose .leftParen .rightParen (ihr h.2) _ _
  | or left right ihl ihr =>
    refine List.forall_mem_append.mpr ⟨?_, List.forall_mem_cons.mpr ⟨.or, ?_⟩⟩
    · exact forall_mem_enclose .leftParen .rightParen (ihl h.1) _ _
    · exact forall_mem_enclose .leftParen .rightParen (ihr h.2) _ _
  | not inner ih =>
    exact List.forall_mem_cons.mpr ⟨.not, forall_mem_enclose .leftParen .rightParen (ih h) _ _⟩
  | boolean value =>
    intro t ht
    obtain rfl := List.mem_singleton.mp ht
    cases value with
    | true => exact .true
    | false => exact .false

theorem written_intercalate (hsome : ts ≠ []) (h : ∀ t ∈ ts, t.Spelled t.spell) :
    Written ts ([' '].intercalate (ts.map Token.spell)) := by
  induction ts with
  | nil => exact absurd rfl hsome
  | cons t ts ih =>
    obtain ⟨ht, hts⟩ := List.forall_mem_cons.mp h
    cases ts with
    | nil =>
      rw [List.map_singleton, List.intercalate_singleton]
      exact .last ht
    | cons next ts =>
      rw [List.map_cons, List.map_cons, List.intercalate_cons_cons, List.append_assoc]
      refine .more ht (List.cons_ne_nil _ _) ?_ (ih (List.cons_ne_nil _ _) hts)
      intro c hc
      obtain rfl := List.mem_singleton.mp hc
      rfl

theorem Expr.write_ne_nil (e : Expr) : e.write ≠ [] := by
  cases e <;> simp [write]

/-- **A printable tree has a print.** -/
theorem Expr.isPrint_print (h : e.IsPrintable) : e.IsPrint e.print := by
  rw [IsPrint, print, String.toList_ofList]
  exact written_intercalate e.write_ne_nil (spelled_of_mem_write h)

/-! ## What compiles can be printed -/

theorem spelled_of_splits (h : Splits cs ts) : ∀ t ∈ ts, ∃ lexeme, t.Spelled lexeme := by
  induction h with
  | nil => exact fun _ ht => absurd ht List.not_mem_nil
  | blank _ _ ih => exact ih
  | lexeme hspelled _ _ ih => exact List.forall_mem_cons.mpr ⟨⟨_, hspelled⟩, ih⟩

/-- What a spelled token denotes can be printed. -/
theorem Token.Denotes.isPrintable {o : Operand} (h : t.Denotes o) (hspelled : t.Spelled cs) :
    o.IsPrintable := by
  cases h with
  | identifier name =>
    cases hspelled with
    | identifier hname => exact hname
  | text value =>
    cases hspelled with
    | text hquote havoids => exact ⟨_, hquote, havoids⟩
  | number digits =>
    cases hspelled with
    | number hsome hdigits hfits =>
      refine ⟨'\'', .inl rfl, fun hmem => ?_⟩
      cases hdigits '\'' hmem

/-- **A tree derived from spelled tokens can be printed.** -/
theorem Derives.isPrintable (h : Derives loose ts e) (hts : ∀ t ∈ ts, ∃ cs, t.Spelled cs) :
    e.IsPrintable := by
  induction h with
  | disjunction _ ih | conjunction _ ih | negation _ ih => exact ih hts
  | or _ _ ihl ihr | and _ _ ihl ihr =>
    obtain ⟨hleft, hright⟩ := List.forall_mem_append.mp hts
    exact ⟨ihl hleft, ihr (List.forall_mem_cons.mp hright).2⟩
  | not _ ih => exact ih (List.forall_mem_cons.mp hts).2
  | parentheses _ ih =>
    exact ih (List.forall_mem_append.mp (List.forall_mem_cons.mp hts).2).1
  | boolean value => exact trivial
  | comparison sign hleft hright =>
    obtain ⟨⟨_, hl⟩, hts⟩ := List.forall_mem_cons.mp hts
    obtain ⟨-, hts⟩ := List.forall_mem_cons.mp hts
    obtain ⟨⟨_, hr⟩, -⟩ := List.forall_mem_cons.mp hts
    exact ⟨hleft.isPrintable hl, hright.isPrintable hr⟩

theorem isPrintable_of_compile {source : String} (h : compile source = .ok e) : e.IsPrintable := by
  obtain ⟨ts, hsplits, hparse⟩ := compile_eq_ok_iff.mp h
  exact (parse_eq_ok_iff_derives.mp hparse).isPrintable (spelled_of_splits hsplits)

/-- **Conditions survive being printed.**  A tree of names and quotable literals has a print, and each of its
prints compiles to it again; and so it is with the tree of any text that compiles. -/
theorem compile_print :
    (∀ e : Expr, e.IsPrintable →
      e.IsPrint e.print ∧ ∀ text, e.IsPrint text → compile text = .ok e) ∧
    ∀ source e, compile source = .ok e →
      e.IsPrintable ∧ e.IsPrint e.print ∧ ∀ text, e.IsPrint text → compile text = .ok e := by
  refine ⟨fun e he => ⟨Expr.isPrint_print he, fun text h => h.compile⟩, fun source e hsource => ?_⟩
  have he := isPrintable_of_compile hsource
  exact ⟨he, Expr.isPrint_print he, fun text h => h.compile⟩

/-- A condition under `NOT` keeps its parentheses, and a literal with a single quote gets double ones. -/
theorem compile_print_nested :
    compile "NOT ( label == \"it's\" OR true )" =
      .ok (.not (.or (.comparison .equal (.identifier "label") (.literal "it's")) (.boolean true))) ∧
    Expr.print (.not (.or (.comparison .equal (.identifier "label") (.literal "it's"))
      (.boolean true))) = "NOT ( label == \"it's\" OR true )" := by
  have hname : IsName "label" := by decide +kernel
  have hprintable : Expr.IsPrintable
      (.not (.or (.comparison .equal (.identifier "label") (.literal "it's")) (.boolean true))) :=
    ⟨⟨hname, '"', .inr rfl, by decide⟩, trivial⟩
  have hprint : Expr.print (.not (.or (.comparison .equal (.identifier "label") (.literal "it's"))
      (.boolean true))) = "NOT ( label == \"it's\" OR true )" := by
    decide +kernel
  obtain ⟨hone, hall⟩ := compile_print.1 _ hprintable
  have hcompiles := hall _ hone
  obtain ⟨-, hagain, hevery⟩ := compile_print.2 _ _ hcompiles
  rw [hprint] at hagain
  exact ⟨hevery _ hagain, hprint⟩

end DatasetHosting.Condition
