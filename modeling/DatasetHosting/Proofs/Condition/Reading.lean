import DatasetHosting.Condition.Parser

/-!
# Proofs/Condition/Reading — what each level of the parser reads

A level returns a tree, the tokens behind it, and the fact that these are fewer.  `reading` forgets the
fact, which is only there to end the recursion, and with it the bound in the type.  The equations below
tell what every level reads in terms of the levels under it; nothing about the parser is proved from its
text but through them.
-/

namespace DatasetHosting.Condition

variable {m n : Nat} {left e : Expr} {ts rest : List Token} {t : Token}

/-- **What was read**: a tree and the tokens behind it, or an error. -/
def reading (result : Except ParseError (Parsed n)) : Except ParseError (Expr × List Token) :=
  result.map fun whole => (whole.tree, whole.rest)

/-! ## Results -/

theorem reading_eq_ok_iff {result : Except ParseError (Parsed n)} :
    reading result = .ok (e, rest) ↔
      ∃ whole, result = .ok whole ∧ whole.tree = e ∧ whole.rest = rest := by
  cases result with
  | error error => simp [reading, Except.map]
  | ok whole => simp [reading, Except.map]

/-- What one reading hands to the next is all that the next one depends on. -/
theorem reading_bind {result : Except ParseError (Parsed m)}
    {next : Parsed m → Except ParseError (Parsed n)}
    {next' : Expr × List Token → Except ParseError (Expr × List Token)}
    (h : ∀ whole, reading (next whole) = next' (whole.tree, whole.rest)) :
    reading (result >>= next) = reading result >>= next' := by
  cases result with
  | error error => rfl
  | ok whole => exact h whole

theorem reading_bind_mono {result : Except ParseError (Parsed m)} (h : m ≤ n) :
    reading (result >>= fun whole => pure (whole.mono h)) = reading result := by
  cases result <;> rfl

/-! ## Chains -/

theorem reading_disjunction (ts : List Token) :
    reading (disjunction ts) =
      reading (conjunction ts) >>= fun first => reading (disjunctionTail first.1 first.2) := by
  rw [disjunction]
  exact reading_bind fun first => reading_bind_mono _

/-- A chain goes on at `OR`. -/
theorem reading_disjunctionTail_or (left : Expr) (rest : List Token) :
    reading (disjunctionTail left (.or :: rest)) =
      reading (conjunction rest) >>= fun next =>
        reading (disjunctionTail (.or left next.1) next.2) := by
  rw [disjunctionTail]
  exact reading_bind fun next => reading_bind_mono _

/-- …and ends anywhere else. -/
theorem reading_disjunctionTail_of_ne (h : ∀ rest, ts ≠ .or :: rest) :
    reading (disjunctionTail left ts) = .ok (left, ts) := by
  rw [disjunctionTail]
  · rfl
  · exact h

theorem reading_conjunction (ts : List Token) :
    reading (conjunction ts) =
      reading (negation ts) >>= fun first => reading (conjunctionTail first.1 first.2) := by
  rw [conjunction]
  exact reading_bind fun first => reading_bind_mono _

/-- A chain goes on at `AND`. -/
theorem reading_conjunctionTail_and (left : Expr) (rest : List Token) :
    reading (conjunctionTail left (.and :: rest)) =
      reading (negation rest) >>= fun next =>
        reading (conjunctionTail (.and left next.1) next.2) := by
  rw [conjunctionTail]
  exact reading_bind fun next => reading_bind_mono _

/-- …and ends anywhere else. -/
theorem reading_conjunctionTail_of_ne (h : ∀ rest, ts ≠ .and :: rest) :
    reading (conjunctionTail left ts) = .ok (left, ts) := by
  rw [conjunctionTail]
  · rfl
  · exact h

/-! ## Single conditions -/

theorem reading_negation_not (rest : List Token) :
    reading (negation (.not :: rest)) =
      reading (negation rest) >>= fun inner => .ok (.not inner.1, inner.2) := by
  rw [negation]
  exact reading_bind fun inner => rfl

theorem reading_negation_of_ne (h : ∀ rest, ts ≠ .not :: rest) :
    reading (negation ts) = reading (primary ts) := by
  rw [negation]
  exact h

theorem reading_primary_nil : reading (primary []) = .error .endOfExpression := by
  rw [primary]
  rfl

/-- What follows a condition in parentheses. -/
def closing (inner : Expr × List Token) : Except ParseError (Expr × List Token) :=
  match inner.2 with
  | .rightParen :: after => .ok (inner.1, after)
  | _ => .error .missingParen

theorem reading_primary_leftParen (rest : List Token) :
    reading (primary (.leftParen :: rest)) = reading (disjunction rest) >>= closing := by
  rw [primary]
  refine reading_bind fun inner => ?_
  obtain ⟨tree, behind, hlt⟩ := inner
  split
  · next h =>
    obtain rfl : behind = _ := h
    rfl
  · next h =>
    rw [closing]
    split
    · next after hclose => exact absurd hclose (h after)
    · rfl

theorem reading_primary_boolean (value : Bool) (rest : List Token) :
    reading (primary (.boolean value :: rest)) = .ok (.boolean value, rest) := by
  rw [primary]
  rfl

/-- Any other token has to start a comparison. -/
theorem reading_primary_of_ne (hparen : t ≠ .leftParen) (hvalue : ∀ value, t ≠ .boolean value)
    (rest : List Token) :
    reading (primary (t :: rest)) = operand t >>= fun left => reading (comparisonTail left rest) := by
  rw [primary]
  · cases operand t with
    | error error => rfl
    | ok left => exact reading_bind_mono _
  · exact hparen
  · exact hvalue

/-- A comparison goes on with a sign and an operand. -/
theorem reading_comparisonTail_eq_ok_iff {left : Operand} :
    reading (comparisonTail left ts) = .ok (e, rest) ↔
      ∃ sign t right, ts = .comparison sign :: t :: rest ∧ operand t = .ok right ∧
        e = .comparison sign left right := by
  rw [comparisonTail.eq_def]
  constructor
  · intro h
    split at h
    · cases h
    · cases h
    · next sign t behind =>
      cases ht : operand t with
      | error error =>
        rw [ht] at h
        cases h
      | ok right =>
        rw [ht] at h
        obtain ⟨rfl, rfl⟩ := Prod.mk.inj (Except.ok.inj h)
        exact ⟨sign, t, right, rfl, ht, rfl⟩
    · cases h
  · rintro ⟨sign, t, right, rfl, ht, rfl⟩
    simp only [ht]
    rfl

/-! ## The whole list -/

/-- A condition is complete if no token is left. -/
theorem parse_eq_ok_iff : parse ts = .ok e ↔ reading (disjunction ts) = .ok (e, []) := by
  rw [parse]
  cases hd : disjunction ts with
  | error error => exact iff_of_false (by rintro ⟨⟩) (by rintro ⟨⟩)
  | ok whole =>
    obtain ⟨tree, rest, hlt⟩ := whole
    cases rest with
    | nil => simp [reading, Except.map, bind, Except.bind, pure, Except.pure]
    | cons found rest => simp [reading, Except.map, bind, Except.bind]

/-- …and it fails where reading does, or at the first token left over, whose position is the number of tokens
in front of it. -/
theorem parse_eq_error_iff {error : ParseError} :
    parse ts = .error error ↔
      reading (disjunction ts) = .error error ∨
        ∃ e found rest, reading (disjunction ts) = .ok (e, found :: rest) ∧
          error = .leftover found (ts.length - (rest.length + 1)) := by
  rw [parse]
  cases disjunction ts with
  | error cause => simp [reading, Except.map, bind, Except.bind]
  | ok whole =>
    obtain ⟨tree, rest, hlt⟩ := whole
    cases rest with
    | nil => simp [reading, Except.map, bind, Except.bind, pure, Except.pure]
    | cons found rest =>
      constructor
      · intro h
        exact .inr ⟨tree, found, rest, rfl, (Except.error.inj h).symm⟩
      · rintro (⟨⟨⟩⟩ | ⟨e, next, behind, hread, rfl⟩)
        obtain ⟨-, hrest⟩ := Prod.mk.inj (Except.ok.inj hread)
        obtain ⟨rfl, rfl⟩ := List.cons.inj hrest
        rfl

end DatasetHosting.Condition
