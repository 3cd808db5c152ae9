import DatasetHosting.Proofs.Condition.Print

/-!
# Proofs/Condition/Atoms — the parser keeps all tokens but parentheses, in order

A tree read from left to right gives back the tokens that it was read from (`Expr.atoms`), up to two things.
Parentheses leave no trace but were balanced (`IsBalanced`), and an operand does not tell whether its literal
was a quoted text or a number.  Both facts are inductions on derivations, which chains, parentheses and `NOT`
build from shorter lists of tokens laid end to end.  So the identifiers of a tree stand in the order of the
tokens, and the one that validation reports is the first of the tokens that is not known.
-/

namespace DatasetHosting.Condition

variable {level : Level} {t : Token} {ts us : List Token} {e : Expr}

/-! ## Atoms -/

/-- **What a tree is made of**: its leaves, and the operators on its inner nodes. -/
inductive Atom where
  | operand (value : Operand)
  | comparison (sign : Comparison)
  | boolean (value : Bool)
  | and
  | or
  | not
  deriving DecidableEq, Repr

/-- The atom that a token stands for.  Parentheses stand for none. -/
def Token.atom? : Token → Option Atom
  | identifier name => some (.operand (.identifier name))
  | text value => some (.operand (.literal value))
  | number digits => some (.operand (.literal digits))
  | boolean value => some (.boolean value)
  | comparison sign => some (.comparison sign)
  | and => some .and
  | or => some .or
  | not => some .not
  | leftParen => none
  | rightParen => none

/-- **The atoms of a tree, from left to right**: an operator of two sides stands between them, and `NOT` in
front. -/
def Expr.atoms : Expr → List Atom
  | comparison sign left right => [.operand left, .comparison sign, .operand right]
  | and left right => left.atoms ++ .and :: right.atoms
  | or left right => left.atoms ++ .or :: right.atoms
  | not inner => .not :: inner.atoms
  | boolean value => [.boolean value]

theorem Token.Denotes.atom? {o : Operand} (h : t.Denotes o) : t.atom? = some (.operand o) := by
  cases h <;> rfl

/-- **Derived tokens are the atoms of the tree**, parentheses apart. -/
theorem Derives.atoms (h : Derives level ts e) : ts.filterMap Token.atom? = e.atoms := by
  induction h with
  | disjunction _ ih | conjunction _ ih | negation _ ih => exact ih
  | or _ _ ihl ihr | and _ _ ihl ihr =>
    rw [List.filterMap_append, ihl, List.filterMap_cons, ihr]
    rfl
  | not _ ih =>
    rw [List.filterMap_cons, ih]
    rfl
  | parentheses _ ih =>
    rw [List.filterMap_cons_none rfl, List.filterMap_append, ih]
    exact List.append_nil _
  | boolean value => rfl
  | comparison sign hleft hright =>
    rw [List.filterMap_cons_some hleft.atom?, List.filterMap_cons, List.filterMap_cons_some hright.atom?]
    rfl

/-! ## Identifiers -/

/-- The name that a token is. -/
def Token.identifier? : Token → Option String
  | identifier name => some name
  | _ => none

/-- The name that an atom is. -/
def Atom.identifier? : Atom → Option String
  | operand (.identifier name) => some name
  | _ => none

theorem Token.identifier?_eq_some_iff {name : String} :
    t.identifier? = some name ↔ t = .identifier name := by
  cases t <;> simp [identifier?]

/-- No token is an identifier without being an atom. -/
theorem Token.atom?_bind_identifier? (t : Token) : t.atom?.bind Atom.identifier? = t.identifier? := by
  cases t <;> rfl

/-- The identifiers of a condition are those among its atoms. -/
theorem Expr.filterMap_atoms (e : Expr) : e.atoms.filterMap Atom.identifier? = e.identifiers := by
  induction e with
  | comparison sign left right => cases left <;> cases right <;> rfl
  | and left right ihl ihr | or left right ihl ihr =>
    rw [atoms, List.filterMap_append, ihl, List.filterMap_cons_none rfl, ihr]
    rfl
  | not inner ih =>
    rw [atoms, List.filterMap_cons_none rfl, ih]
    rfl
  | boolean value => rfl

/-- **The identifiers of a tree are the identifiers among its tokens**, repetitions included. -/
theorem Derives.identifiers (h : Derives level ts e) :
    e.identifiers = ts.filterMap Token.identifier? := by
  rw [← Expr.filterMap_atoms, ← h.atoms, List.filterMap_filterMap]
  simp only [Token.atom?_bind_identifier?]

/-! ## Parentheses -/

/-- **The parentheses are balanced.** -/
structure IsBalanced (ts : List Token) : Prop where
  /-- No parenthesis is closed before it is opened. -/
  opened : ∀ n, (ts.take n).count .rightParen ≤ (ts.take n).count .leftParen
  /-- Every parenthesis is closed. -/
  closed : ts.count .rightParen = ts.count .leftParen

theorem isBalanced_singleton (hleft : t ≠ .leftParen) (hright : t ≠ .rightParen) :
    IsBalanced [t] := by
  have hnone : ∀ paren, t ≠ paren → [t].count paren = 0 := by
    intro paren hne
    rw [List.count_singleton, beq_eq_false_iff_ne.mpr hne]
    rfl
  refine ⟨fun n => ?_, by rw [hnone _ hleft, hnone _ hright]⟩
  have hprefix := (List.take_sublist n [t]).count_le Token.rightParen
  rw [hnone _ hright] at hprefix
  exact Nat.le_trans hprefix (Nat.zero_le _)

/-- Balanced tokens behind balanced tokens are balanced. -/
theorem IsBalanced.append (h : IsBalanced ts) (h' : IsBalanced us) : IsBalanced (ts ++ us) := by
  refine ⟨fun n => ?_, ?_⟩
  · rw [List.take_append, List.count_append, List.count_append]
    exact Nat.add_le_add (h.opened n) (h'.opened _)
  · rw [List.count_append, List.count_append, h.closed, h'.closed]

theorem IsBalanced.cons (h : IsBalanced ts) (hleft : t ≠ .leftParen) (hright : t ≠ .rightParen) :
    IsBalanced (t :: ts) :=
  (isBalanced_singleton hleft hright).append h

/-- Parentheses around balanced tokens: the one closed behind them is the one opened in front. -/
theorem IsBalanced.parentheses (h : IsBalanced ts) :
    IsBalanced (.leftParen :: (ts ++ [.rightParen])) := by
  refine ⟨fun n => ?_, ?_⟩
  · cases n with
    | zero => exact Nat.le_refl _
    | succ n =>
      have hopened := h.opened n
      have hlast := (List.take_sublist (n - ts.length) [Token.rightParen]).count_le .rightParen
      rw [List.count_singleton_self] at hlast
      rw [List.take_succ_cons, List.take_append, List.count_cons_of_ne (by decide), List.count_append,
        List.count_cons_self, List.count_append]
      omega
  · rw [List.count_cons_of_ne (by decide), List.count_append, List.count_singleton_self,
      List.count_cons_self, List.count_append, h.closed]
    rfl

theorem Token.Denotes.ne_parens {o : Operand} (h : t.Denotes o) :
    t ≠ .leftParen ∧ t ≠ .rightParen := by
  cases h <;> exact ⟨by rintro ⟨⟩, by rintro ⟨⟩⟩

/-- **The parentheses of derived tokens are balanced.** -/
theorem Derives.isBalanced (h : Derives level ts e) : IsBalanced ts := by
  induction h with
  | disjunction _ ih | conjunction _ ih | negation _ ih => exact ih
  | or _ _ ihl ihr | and _ _ ihl ihr => exact ihl.append (ihr.cons (by decide) (by decide))
  | not _ ih => exact ih.cons (by decide) (by decide)
  | parentheses _ ih => exact ih.parentheses
  | boolean value => exact isBalanced_singleton (by rintro ⟨⟩) (by rintro ⟨⟩)
  | comparison sign hleft hright =>
    have hoperand := isBalanced_singleton hright.ne_parens.1 hright.ne_parens.2
    have hsign := hoperand.cons (t := .comparison sign) (by rintro ⟨⟩) (by rintro ⟨⟩)
    exact hsign.cons hleft.ne_parens.1 hleft.ne_parens.2

/-! ## The name that validation reports -/

/-- The first name among the tokens that is not known, with what stands on either side. -/
theorem exists_of_find?_identifier? {name : String}
    (h : (ts.filterMap Token.identifier?).find? (!isKnownIdentifier ·) = some name) :
    name ∉ knownIdentifiers ∧ ∃ before behind, ts = before ++ .identifier name :: behind ∧
      ∀ known, .identifier known ∈ before → known ∈ knownIdentifiers := by
  rw [List.find?_filterMap, Option.bind_eq_some_iff] at h
  obtain ⟨t, hfind, hname⟩ := h
  obtain rfl := Token.identifier?_eq_some_iff.mp hname
  obtain ⟨hunknown, before, behind, rfl, hbefore⟩ := List.find?_eq_some_iff_append.mp hfind
  refine ⟨?_, before, behind, rfl, fun known hknown => ?_⟩
  · simpa [Token.identifier?, isKnownIdentifier] using hunknown
  · simpa [Token.identifier?, isKnownIdentifier] using hbefore _ hknown

/-! ## Parsing as a whole -/

/-- **The parser loses, invents and reorders nothing.**  The atoms of the tree are the tokens without the
parentheses, which are balanced, and its identifiers are the identifiers among the tokens.  So validation of a
text that compiles fails only for an unknown identifier, and reports the first that stands in the text. -/
theorem parse_keeps_atoms (h : parse ts = .ok e) :
    e.atoms = ts.filterMap Token.atom? ∧ IsBalanced ts ∧
      e.identifiers = ts.filterMap Token.identifier? ∧
      ∀ source error, tokenize source = .ok ts → validate source = .error error →
        ∃ name, error = ⟨source, .evaluation (.unknownIdentifier name)⟩ ∧
          name ∉ knownIdentifiers ∧ ∃ before behind, ts = before ++ .identifier name :: behind ∧
            ∀ known, .identifier known ∈ before → known ∈ knownIdentifiers := by
  have hderives := parse_eq_ok_iff_derives.mp h
  refine ⟨hderives.atoms.symm, hderives.isBalanced, hderives.identifiers, ?_⟩
  intro source error htokens herror
  have hcompile : compile source = .ok e :=
    compile_eq_ok_iff.mpr ⟨ts, splits_of_tokens htokens, h⟩
  obtain ⟨name, hfind, rfl⟩ := (validate_eq_error_iff hcompile).mp herror
  rw [hderives.identifiers] at hfind
  exact ⟨name, rfl, exists_of_find?_identifier? hfind⟩

/-- Of two unknown names validation reports the one on the left, which stands behind a known one. -/
theorem parse_keeps_atoms_of_unknown :
    let source := "NOT ( label == 'x' AND nodes > '3' ) OR pods == '1'"
    let ts : List Token := [.not, .leftParen, .identifier "label", .comparison .equal, .text "x", .and,
      .identifier "nodes", .comparison .greater, .text "3", .rightParen, .or, .identifier "pods",
      .comparison .equal, .text "1"]
    let e : Expr := .or
      (.not (.and (.comparison .equal (.identifier "label") (.literal "x"))
        (.comparison .greater (.identifier "nodes") (.literal "3"))))
      (.comparison .equal (.identifier "pods") (.literal "1"))
    tokenize source = .ok ts ∧ parse ts = .ok e ∧ e.atoms = ts.filterMap Token.atom? ∧ IsBalanced ts ∧
      e.identifiers = ["label", "nodes", "pods"] ∧
      validate source = .error ⟨source, .evaluation (.unknownIdentifier "nodes")⟩ ∧
      "nodes" ∉ knownIdentifiers := by
  intro source ts e
  have hlabel : IsName "label" := by decide +kernel
  have hnodes : IsName "nodes" := by decide +kernel
  have hpods : IsName "pods" := by decide +kernel
  have hprintable : e.IsPrintable :=
    ⟨⟨⟨hlabel, '"', .inr rfl, by decide⟩, hnodes, '"', .inr rfl, by decide⟩,
      hpods, '"', .inr rfl, by decide⟩
  have hprint : e.print = source := by decide +kernel
  have htokens : tokenize source = .ok ts := by
    rw [← hprint]
    exact tokens_of_splits (Expr.isPrint_print hprintable).splits
  have hparse : parse ts = .ok e := parse_write e
  have hcompile : compile source = .ok e :=
    compile_eq_ok_iff.mpr ⟨ts, splits_of_tokens htokens, hparse⟩
  have hvalidate := (validate_eq_error_iff hcompile).mpr ⟨"nodes", by decide, rfl⟩
  obtain ⟨hatoms, hbalanced, hidentifiers, hreport⟩ := parse_keeps_atoms hparse
  obtain ⟨name, herror, hunknown, -⟩ := hreport source _ htokens hvalidate
  obtain ⟨-, hfault⟩ := TextError.mk.inj herror
  obtain rfl := EvalError.unknownIdentifier.inj (TextFault.evaluation.inj hfault)
  exact ⟨htokens, hparse, hatoms, hbalanced, hidentifiers, hvalidate, hunknown⟩

end DatasetHosting.Condition
