import DatasetHosting.Proofs.Condition.Reading

/-!
# Proofs/Condition/Grammar — the parser accepts exactly the grammar of conditions

The grammar has four levels, written here as rules (`Derives`):

    disjunction ::= conjunction ( OR conjunction )*
    conjunction ::= negation ( AND negation )*
    negation    ::= NOT negation | primary
    primary     ::= '(' disjunction ')' | boolean | operand sign operand

A chain leans to the left, so a chain is a shorter chain with one more link.  Parentheses leave no trace in
the tree.  The two halves of `parse_eq_ok_iff_derives`:

* soundness, along the recursion of the parser — what a level has taken off the tokens derives its tree;
* completeness, along a derivation — a level takes exactly the derived tokens, whatever stands behind them.
-/

namespace DatasetHosting.Condition

/-! ## The grammar -/

/-- The levels of the grammar, from the loosest connective to the tightest. -/
inductive Level where
  | disjunction
  | conjunction
  | negation
  | primary
  deriving DecidableEq, Repr, Inhabited

/-- **The operand that a token stands for**: an identifier, a quoted text or a number. -/
inductive Token.Denotes : Token → Operand → Prop where
  | identifier (name : String) : Denotes (.identifier name) (.identifier name)
  | text (value : String) : Denotes (.text value) (.literal value)
  | number (digits : String) : Denotes (.number digits) (.literal digits)

/-- **The tokens derive the tree** at a level of the grammar. -/
inductive Derives : Level → List Token → Expr → Prop where
  | disjunction {ts e} (first : Derives .conjunction ts e) : Derives .disjunction ts e
  | or {ts us left right} (chain : Derives .disjunction ts left)
      (link : Derives .conjunction us right) :
      Derives .disjunction (ts ++ .or :: us) (.or left right)
  | conjunction {ts e} (first : Derives .negation ts e) : Derives .conjunction ts e
  | and {ts us left right} (chain : Derives .conjunction ts left)
      (link : Derives .negation us right) :
      Derives .conjunction (ts ++ .and :: us) (.and left right)
  | not {ts inner} (negated : Derives .negation ts inner) :
      Derives .negation (.not :: ts) (.not inner)
  | negation {ts e} (bare : Derives .primary ts e) : Derives .negation ts e
  | parentheses {ts e} (inner : Derives .disjunction ts e) :
      Derives .primary (.leftParen :: (ts ++ [.rightParen])) e
  | boolean (value : Bool) : Derives .primary [.boolean value] (.boolean value)
  | comparison {t u left right} (sign : Comparison) (hleft : t.Denotes left)
      (hright : u.Denotes right) :
      Derives .primary [t, .comparison sign, u] (.comparison sign left right)

variable {level : Level} {ts rest : List Token} {e left : Expr}

theorem operand_eq_ok_iff {t : Token} {o : Operand} : operand t = .ok o ↔ t.Denotes o := by
  constructor
  · intro h
    cases t <;> cases h <;> constructor
  · rintro (_ | _ | _) <;> rfl

/-! ## Levels of the parser -/

/-- What the parser reads at a level. -/
abbrev Level.read : Level → (ts : List Token) → Except ParseError (Parsed ts.length)
  | .disjunction, ts => Condition.disjunction ts
  | .conjunction, ts => Condition.conjunction ts
  | .negation, ts => Condition.negation ts
  | .primary, ts => Condition.primary ts

/-- How a level goes on behind a condition: the two looser ones are chains. -/
abbrev Level.readOn : Level → Expr → List Token → Except ParseError (Expr × List Token)
  | .disjunction, left, ts => reading (disjunctionTail left ts)
  | .conjunction, left, ts => reading (conjunctionTail left ts)
  | .negation, left, ts => .ok (left, ts)
  | .primary, left, ts => .ok (left, ts)

/-- **The recursion of the parser**, for what holds of each level (`Reads`) and of the chains behind a
condition (`GoesOn`). -/
theorem Level.induct (Reads : Level → List Token → Prop) (GoesOn : Level → Expr → List Token → Prop)
    (disjunction : ∀ ts, Reads .conjunction ts →
      (∀ first : Parsed ts.length, GoesOn .disjunction first.tree first.rest) → Reads .disjunction ts)
    (or : ∀ left ts, Reads .conjunction ts →
      (∀ next : Parsed ts.length, GoesOn .disjunction (.or left next.tree) next.rest) →
        GoesOn .disjunction left (.or :: ts))
    (orEnd : ∀ left ts, (∀ rest, ts ≠ .or :: rest) → GoesOn .disjunction left ts)
    (conjunction : ∀ ts, Reads .negation ts →
      (∀ first : Parsed ts.length, GoesOn .conjunction first.tree first.rest) → Reads .conjunction ts)
    (and : ∀ left ts, Reads .negation ts →
      (∀ next : Parsed ts.length, GoesOn .conjunction (.and left next.tree) next.rest) →
        GoesOn .conjunction left (.and :: ts))
    (andEnd : ∀ left ts, (∀ rest, ts ≠ .and :: rest) → GoesOn .conjunction left ts)
    (not : ∀ ts, Reads .negation ts → Reads .negation (.not :: ts))
    (bare : ∀ ts, (∀ rest, ts ≠ .not :: rest) → Reads .primary ts → Reads .negation ts)
    (nothing : Reads .primary [])
    (parentheses : ∀ ts, Reads .disjunction ts → Reads .primary (.leftParen :: ts))
    (boolean : ∀ value ts, Reads .primary (.boolean value :: ts))
    (comparison : ∀ t ts, t ≠ .leftParen → (∀ value, t ≠ .boolean value) → Reads .primary (t :: ts))
    (level : Level) (ts : List Token) : Reads level ts := by
  obtain ⟨hdisjunction, -, hconjunction, -, hnegation, hprimary⟩ := Condition.disjunction.mutual_induct
    (Reads .disjunction) (GoesOn .disjunction) (Reads .conjunction) (GoesOn .conjunction)
    (Reads .negation) (Reads .primary)
    disjunction or orEnd conjunction and andEnd not bare nothing parentheses boolean comparison
  cases level with
  | disjunction => exact hdisjunction ts
  | conjunction => exact hconjunction ts
  | negation => exact hnegation ts
  | primary => exact hprimary ts

/-! ## Soundness -/

/-- **A sound reading**: the tokens that it has taken off derive the tree. -/
def IsSound (level : Level) (ts : List Token)
    (result : Except ParseError (Expr × List Token)) : Prop :=
  ∀ e rest, result = .ok (e, rest) → ∃ used, ts = used ++ rest ∧ Derives level used e

/-- …and a sound reading of what goes on behind a chain: the chain with what was taken off derives the
tree. -/
def IsSoundBehind (level : Level) (left : Expr) (ts : List Token)
    (result : Except ParseError (Expr × List Token)) : Prop :=
  ∀ before, Derives level before left → ∀ e rest, result = .ok (e, rest) →
    ∃ used, ts = used ++ rest ∧ Derives level (before ++ used) e

/-- A chain that is not continued is complete. -/
theorem isSoundBehind_stop : IsSoundBehind level left ts (.ok (left, ts)) := by
  intro before hbefore e rest h
  obtain ⟨rfl, rfl⟩ := Prod.mk.inj (Except.ok.inj h)
  exact ⟨[], rfl, by simpa using hbefore⟩

theorem exists_of_bind_eq_ok {α β : Type} {result : Except ParseError α}
    {next : α → Except ParseError β} {value : β} (h : result >>= next = .ok value) :
    ∃ first, result = .ok first ∧ next first = .ok value := by
  cases result with
  | error error => cases h
  | ok first => exact ⟨first, rfl, h⟩

section Chains

variable {n : Nat} {tight : Level} {result : Except ParseError (Parsed n)}
  (tail : Expr → List Token → Except ParseError (Expr × List Token))

/-- A chain starts with what a tighter level takes off. -/
theorem IsSound.chain (hfirst : IsSound tight ts (reading result))
    (hloosen : ∀ us e, Derives tight us e → Derives level us e)
    (htail : ∀ whole : Parsed n,
      IsSoundBehind level whole.tree whole.rest (tail whole.tree whole.rest)) :
    IsSound level ts (reading result >>= fun first => tail first.1 first.2) := by
  intro e rest h
  obtain ⟨⟨first, behind⟩, hread, hrest⟩ := exists_of_bind_eq_ok h
  obtain ⟨whole, -, rfl, rfl⟩ := reading_eq_ok_iff.mp hread
  obtain ⟨used, hused, hderives⟩ := hfirst _ _ hread
  obtain ⟨more, hmore, hall⟩ := htail whole used (hloosen _ _ hderives) e rest hrest
  exact ⟨used ++ more, by rw [hused, hmore, List.append_assoc], hall⟩

/-- …and each of its links goes on with what that level takes off behind the connective. -/
theorem IsSound.link {connective : Token} (make : Expr → Expr → Expr)
    (hlink : IsSound tight ts (reading result))
    (hmake : ∀ before us right, Derives level before left → Derives tight us right →
      Derives level (before ++ connective :: us) (make left right))
    (htail : ∀ whole : Parsed n,
      IsSoundBehind level (make left whole.tree) whole.rest (tail (make left whole.tree) whole.rest)) :
    IsSoundBehind level left (connective :: ts)
      (reading result >>= fun next => tail (make left next.1) next.2) := by
  intro before hbefore e rest h
  obtain ⟨⟨next, behind⟩, hread, hrest⟩ := exists_of_bind_eq_ok h
  obtain ⟨whole, -, rfl, rfl⟩ := reading_eq_ok_iff.mp hread
  obtain ⟨used, hused, hderives⟩ := hlink _ _ hread
  obtain ⟨more, hmore, hall⟩ := htail whole _ (hmake before used _ hbefore hderives) e rest hrest
  exact ⟨connective :: (used ++ more), by rw [hused, hmore]; simp, by simpa using hall⟩

end Chains

/-- **What the parser takes off derives what it returns**, at every level. -/
theorem read_sound (level : Level) (ts : List Token) : IsSound level ts (reading (level.read ts)) := by
  refine Level.induct (fun level ts => IsSound level ts (reading (level.read ts)))
    (fun level left ts => IsSoundBehind level left ts (level.readOn left ts))
    ?disjunction ?or ?orEnd ?conjunction ?and ?andEnd ?not ?bare ?nothing ?parentheses ?boolean
    ?comparison level ts
  case disjunction =>
    intro ts hfirst htail
    rw [reading_disjunction]
    exact hfirst.chain (fun e rest => reading (disjunctionTail e rest)) (fun _ _ => .disjunction) htail
  case or =>
    intro left ts hlink htail
    rw [Level.readOn, reading_disjunctionTail_or]
    exact hlink.link (fun e rest => reading (disjunctionTail e rest)) .or (fun _ _ _ => .or) htail
  case orEnd =>
    intro left ts hend
    rw [Level.readOn, reading_disjunctionTail_of_ne hend]
    exact isSoundBehind_stop
  case conjunction =>
    intro ts hfirst htail
    rw [reading_conjunction]
    exact hfirst.chain (fun e rest => reading (conjunctionTail e rest)) (fun _ _ => .conjunction) htail
  case and =>
    intro left ts hlink htail
    rw [Level.readOn, reading_conjunctionTail_and]
    exact hlink.link (fun e rest => reading (conjunctionTail e rest)) .and (fun _ _ _ => .and) htail
  case andEnd =>
    intro left ts hend
    rw [Level.readOn, reading_conjunctionTail_of_ne hend]
    exact isSoundBehind_stop
  case not =>
    intro ts hinner e rest h
    rw [reading_negation_not] at h
    obtain ⟨⟨inner, behind⟩, hread, hrest⟩ := exists_of_bind_eq_ok h
    obtain ⟨used, rfl, hderives⟩ := hinner _ _ hread
    obtain ⟨rfl, rfl⟩ := Prod.mk.inj (Except.ok.inj hrest)
    exact ⟨.not :: used, rfl, .not hderives⟩
  case bare =>
    intro ts hnot hprimary e rest h
    rw [reading_negation_of_ne hnot] at h
    obtain ⟨used, hused, hderives⟩ := hprimary e rest h
    exact ⟨used, hused, .negation hderives⟩
  case nothing =>
    intro e rest h
    rw [reading_primary_nil] at h
    cases h
  case parentheses =>
    intro ts hinner e rest h
    rw [reading_primary_leftParen] at h
    obtain ⟨⟨inner, behind⟩, hread, hrest⟩ := exists_of_bind_eq_ok h
    obtain ⟨used, rfl, hderives⟩ := hinner _ _ hread
    rw [closing] at hrest
    split at hrest
    · next after hafter =>
      obtain rfl : behind = _ := hafter
      obtain ⟨rfl, rfl⟩ := Prod.mk.inj (Except.ok.inj hrest)
      exact ⟨.leftParen :: (used ++ [.rightParen]), by simp, .parentheses hderives⟩
    · cases hrest
  case boolean =>
    intro value ts e rest h
    rw [reading_primary_boolean] at h
    obtain ⟨rfl, rfl⟩ := Prod.mk.inj (Except.ok.inj h)
    exact ⟨[.boolean value], rfl, .boolean value⟩
  case comparison =>
    intro t ts hparen hvalue e rest h
    rw [reading_primary_of_ne hparen hvalue] at h
    obtain ⟨left, hleft, hrest⟩ := exists_of_bind_eq_ok h
    obtain ⟨sign, u, right, rfl, hright, rfl⟩ := reading_comparisonTail_eq_ok_iff.mp hrest
    exact ⟨[t, .comparison sign, u], rfl,
      .comparison sign (operand_eq_ok_iff.mp hleft) (operand_eq_ok_iff.mp hright)⟩

/-! ## Completeness -/

/-- **What a level makes of derived tokens**, with anything behind them.  The two looser levels hand what
they derive to their chain, which may go on behind it; `AND` behind a disjunction would go on with its
last link instead. -/
def Takes (ts : List Token) (e : Expr) : Level → Prop
  | .disjunction => ∀ rest, (∀ more, rest ≠ .and :: more) →
      reading (disjunction (ts ++ rest)) = reading (disjunctionTail e rest)
  | .conjunction => ∀ rest,
      reading (conjunction (ts ++ rest)) = reading (conjunctionTail e rest)
  | .negation => ∀ rest, reading (negation (ts ++ rest)) = .ok (e, rest)
  | .primary => ∀ rest, reading (primary (ts ++ rest)) = .ok (e, rest)

/-- A primary does not start with `NOT`. -/
theorem Derives.ne_not (h : Derives .primary ts e) (rest : List Token) :
    ∀ more, ts ++ rest ≠ .not :: more := by
  intro more hnot
  cases h with
  | parentheses inner => cases hnot
  | boolean value => cases hnot
  | comparison sign hleft hright =>
    obtain ⟨rfl, -⟩ := List.cons.inj hnot
    cases hleft

/-- **Derived tokens are taken**, no fewer and no more. -/
theorem Derives.takes (h : Derives level ts e) : Takes ts e level := by
  induction h with
  | disjunction first ih =>
    intro rest hrest
    rw [reading_disjunction, ih rest, reading_conjunctionTail_of_ne hrest]
    rfl
  | @or ts us left right chain link ihchain ihlink =>
    intro rest hrest
    have hor : ∀ more, Token.or :: (us ++ rest) ≠ .and :: more := by simp
    rw [List.append_assoc, List.cons_append, ihchain _ hor, reading_disjunctionTail_or, ihlink rest,
      reading_conjunctionTail_of_ne hrest]
    rfl
  | conjunction first ih =>
    intro rest
    rw [reading_conjunction, ih rest]
    rfl
  | and chain link ihchain ihlink =>
    intro rest
    rw [List.append_assoc, List.cons_append, ihchain, reading_conjunctionTail_and, ihlink rest]
    rfl
  | not negated ih =>
    intro rest
    rw [List.cons_append, reading_negation_not, ih rest]
    rfl
  | negation bare ih =>
    intro rest
    rw [reading_negation_of_ne (bare.ne_not rest), ih rest]
  | parentheses inner ih =>
    intro rest
    rw [List.cons_append, List.append_assoc, reading_primary_leftParen, ih _ (by simp),
      reading_disjunctionTail_of_ne (by simp)]
    rfl
  | boolean value =>
    intro rest
    exact reading_primary_boolean value rest
  | @comparison t u left right sign hleft hright =>
    intro rest
    have htail : reading (comparisonTail left (.comparison sign :: u :: rest)) =
        .ok (.comparison sign left right, rest) :=
      reading_comparisonTail_eq_ok_iff.mpr ⟨sign, u, right, rfl, operand_eq_ok_iff.mpr hright, rfl⟩
    have hparen : t ≠ .leftParen := by
      rintro rfl
      cases hleft
    have hvalue : ∀ value, t ≠ .boolean value := by
      rintro value rfl
      cases hleft
    refine (reading_primary_of_ne hparen hvalue _).trans ?_
    rw [operand_eq_ok_iff.mpr hleft]
    exact htail

/-! ## The parser and the grammar -/

theorem parse_eq_ok_iff_derives : parse ts = .ok e ↔ Derives .disjunction ts e := by
  rw [parse_eq_ok_iff]
  constructor
  · intro h
    obtain ⟨used, hused, hderives⟩ := read_sound .disjunction ts e [] h
    rw [List.append_nil] at hused
    rwa [hused]
  · intro h
    have htaken := h.takes [] (by simp)
    rw [List.append_nil] at htaken
    rw [htaken, reading_disjunctionTail_of_ne (by simp)]

/-- **The parser accepts exactly the grammar** and builds the one tree that the tokens derive. -/
theorem parse_accepts_grammar (ts : List Token) :
    (∀ e, parse ts = .ok e ↔ Derives .disjunction ts e) ∧
      (∀ e e', Derives .disjunction ts e → Derives .disjunction ts e' → e = e') ∧
      ((∃ e, Derives .disjunction ts e) → ∃ e, parse ts = .ok e) := by
  refine ⟨fun e => parse_eq_ok_iff_derives, fun e e' he he' => ?_, ?_⟩
  · have hparse := parse_eq_ok_iff_derives.mpr he
    rw [parse_eq_ok_iff_derives.mpr he'] at hparse
    exact (Except.ok.inj hparse).symm
  · rintro ⟨e, he⟩
    exact ⟨e, parse_eq_ok_iff_derives.mpr he⟩

/-- `NOT (true OR false) AND format >= 8` is the one tree that it derives. -/
theorem parse_accepts_nested :
    parse [.not, .leftParen, .boolean true, .or, .boolean false, .rightParen, .and,
        .identifier "format", .comparison .greaterOrEqual, .number "8"] =
      .ok (.and (.not (.or (.boolean true) (.boolean false)))
        (.comparison .greaterOrEqual (.identifier "format") (.literal "8"))) ∧
    ∀ e, Derives .disjunction [.not, .leftParen, .boolean true, .or, .boolean false, .rightParen, .and,
        .identifier "format", .comparison .greaterOrEqual, .number "8"] e →
      e = .and (.not (.or (.boolean true) (.boolean false)))
        (.comparison .greaterOrEqual (.identifier "format") (.literal "8")) := by
  have hchain := Derives.or (.disjunction (.conjunction (.negation (.boolean true))))
    (.conjunction (.negation (.boolean false)))
  have hnegated := Derives.not (.negation (.parentheses hchain))
  have hcompared := Derives.comparison .greaterOrEqual (.identifier "format") (.number "8")
  have hderives := Derives.disjunction (.and (.conjunction hnegated) (.negation hcompared))
  obtain ⟨haccepts, hunique, -⟩ := parse_accepts_grammar (_ ++ .and :: _)
  exact ⟨(haccepts _).mpr hderives, fun e he => hunique _ _ he hderives⟩

end DatasetHosting.Condition
