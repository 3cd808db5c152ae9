import DatasetHosting.Condition.Expr

/-!
# Condition/Parser — from tokens to a tree

`OR` binds loosest, then `AND`, then `NOT`; chains of one connective lean to the left. Each level reads a
tree off the front of the token list and returns what it left over, with the fact that this is shorter:
parsing ends because every level takes a token before it starts over.
-/

namespace DatasetHosting.Condition

/-- Why a token list is no condition. -/
inductive ParseError where
  /-- The tokens end where a condition should start. -/
  | endOfExpression
  /-- The tokens end inside a comparison. -/
  | incompleteComparison
  /-- No closing parenthesis stands behind a condition in parentheses. -/
  | missingParen
  /-- A token that is no operand stands where one should. -/
  | notOperand (found : Token)
  /-- A token that is no comparison sign stands behind an operand. -/
  | notComparison (found : Token)
  /-- A complete condition is followed by another token. -/
  | leftover (found : Token) (position : Nat)
  deriving DecidableEq, Repr

/-- The wording of a parser error. -/
def ParseError.message : ParseError → String
  | endOfExpression => "unexpected end of expression"
  | incompleteComparison => "incomplete comparison expression"
  | missingParen => "expected ')'"
  | notOperand found => "expected identifier or literal, got " ++ found.describe
  | notComparison found => "expected comparison operator, got " ++ found.describe
  | leftover found position =>
    "unexpected token " ++ found.describe ++ " at position " ++ toString position

/-- **A tree read off a token list**, with the tokens left over, which are fewer than `bound`. -/
structure Parsed (bound : Nat) where
  /-- The tree. -/
  tree : Expr
  /-- The tokens behind it. -/
  rest : List Token
  /-- Reading made progress. -/
  rest_lt : rest.length < bound

/-- A smaller bound is also below a larger one. -/
def Parsed.mono {m n : Nat} (p : Parsed m) (h : m ≤ n) : Parsed n :=
  ⟨p.tree, p.rest, Nat.lt_of_lt_of_le p.rest_lt h⟩

/-- The operand that a token is. -/
def operand : Token → Except ParseError Operand
  | .identifier name => .ok (.identifier name)
  | .text value => .ok (.literal value)
  | .number digits => .ok (.literal digits)
  | found => .error (.notOperand found)

/-- A comparison whose left operand has been read. -/
def comparisonTail (left : Operand) : (ts : List Token) → Except ParseError (Parsed ts.length)
  | [] => .error .incompleteComparison
  | [.comparison _] => .error .incompleteComparison
  | .comparison sign :: t :: rest => do
    let right ← operand t
    return ⟨.comparison sign left right, rest, by simp only [List.length_cons]; omega⟩
  | found :: _ => .error (.notComparison found)

mutual

/-- Conditions joined by `OR`. -/
def disjunction (ts : List Token) : Except ParseError (Parsed ts.length) := do
  let first ← conjunction ts
  let all ← disjunctionTail first.tree first.rest
  return all.mono first.rest_lt
termination_by (ts.length, 4)
decreasing_by
  · exact Prod.Lex.right _ (by omega)
  · exact Prod.Lex.left _ _ first.rest_lt

/-- What follows `left` in a chain of `OR`. -/
def disjunctionTail (left : Expr) (ts : List Token) : Except ParseError (Parsed (ts.length + 1)) :=
  match ts with
  | .or :: rest => do
    let next ← conjunction rest
    let all ← disjunctionTail (.or left next.tree) next.rest
    return all.mono (by have := next.rest_lt; simp only [List.length_cons]; omega)
  | ts => .ok ⟨left, ts, Nat.lt_succ_self _⟩
termination_by (ts.length, 0)
decreasing_by
  · exact Prod.Lex.left _ _ (by simp)
  · exact Prod.Lex.left _ _ (by have := next.rest_lt; simp only [List.length_cons]; omega)

/-- Conditions joined by `AND`. -/
def conjunction (ts : List Token) : Except ParseError (Parsed ts.length) := do
  let first ← negation ts
  let all ← conjunctionTail first.tree first.rest
  return all.mono first.rest_lt
termination_by (ts.length, 3)
decreasing_by
  · exact Prod.Lex.right _ (by omega)
  · exact Prod.Lex.left _ _ first.rest_lt

/-- What follows `left` in a chain of `AND`. -/
def conjunctionTail (left : Expr) (ts : List Token) : Except ParseError (Parsed (ts.length + 1)) :=
  match ts with
  | .and :: rest => do
    let next ← negation rest
    let all ← conjunctionTail (.and left next.tree) next.rest
    return all.mono (by have := next.rest_lt; simp only [List.length_cons]; omega)
  | ts => .ok ⟨left, ts, Nat.lt_succ_self _⟩
termination_by (ts.length, 0)
decreasing_by
  · exact Prod.Lex.left _ _ (by simp)
  · exact Prod.Lex.left _ _ (by have := next.rest_lt; simp only [List.length_cons]; omega)

/-- A condition behind any number of `NOT`. -/
def negation (ts : List Token) : Except ParseError (Parsed ts.length) :=
  match ts with
  | .not :: rest => do
    let inner ← negation rest
    return ⟨.not inner.tree, inner.rest,
      by have := inner.rest_lt; simp only [List.length_cons]; omega⟩
  | ts => primary ts
termination_by (ts.length, 2)
decreasing_by
  · exact Prod.Lex.left _ _ (by simp)
  · exact Prod.Lex.right _ (by omega)

/-- A condition in parentheses, a truth value or a comparison. -/
def primary (ts : List Token) : Except ParseError (Parsed ts.length) :=
  match ts with
  | [] => .error .endOfExpression
  | .leftParen :: rest => do
    let inner ← disjunction rest
    match h : inner.rest with
    | .rightParen :: after =>
      return ⟨inner.tree, after, by
        have := inner.rest_lt
        simp only [h, List.length_cons] at this ⊢
        omega⟩
    | _ => .error .missingParen
  | .boolean value :: rest => .ok ⟨.boolean value, rest, Nat.lt_succ_self _⟩
  | t :: rest => do
    let left ← operand t
    let whole ← comparisonTail left rest
    return whole.mono (Nat.le_succ _)
termination_by (ts.length, 1)
decreasing_by
  · exact Prod.Lex.left _ _ (by simp)

end

/-- **The condition that a token list writes.** Nothing may stand behind it. -/
def parse (ts : List Token) : Except ParseError Expr := do
  let whole ← disjunction ts
  match whole.rest with
  | [] => return whole.tree
  | found :: _ => .error (.leftover found (ts.length - whole.rest.length))

end DatasetHosting.Condition
