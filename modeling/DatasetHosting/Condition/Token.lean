import DatasetHosting.Text.Quoted

/-!
# Condition/Token — the words of a condition

A condition is written with comparison signs, the connectives `AND`, `OR` and `NOT`, parentheses, the
two truth values, and operands: identifiers, quoted texts and numbers. Messages show a token by
`Token.describe`.
-/

namespace DatasetHosting.Condition

open DatasetHosting.Text (quoted)

/-- The six comparison signs. -/
inductive Comparison where
  | equal
  | notEqual
  | less
  | lessOrEqual
  | greater
  | greaterOrEqual
  deriving DecidableEq, Repr, Inhabited

namespace Comparison

/-- The sign as it is written. -/
def symbol : Comparison → String
  | equal => "=="
  | notEqual => "!="
  | less => "<"
  | lessOrEqual => "<="
  | greater => ">"
  | greaterOrEqual => ">="

/-- The sign's name in messages. -/
def name : Comparison → String
  | equal => "Equal"
  | notEqual => "NotEqual"
  | less => "LessThan"
  | lessOrEqual => "LessThanOrEqual"
  | greater => "GreaterThan"
  | greaterOrEqual => "GreaterThanOrEqual"

/-- Whether the sign holds of two values that stand in the given order. -/
def holds : Comparison → Ordering → Bool
  | equal, o => o == .eq
  | notEqual, o => o != .eq
  | less, o => o == .lt
  | lessOrEqual, o => o != .gt
  | greater, o => o == .gt
  | greaterOrEqual, o => o != .lt

end Comparison

/-- A token of a condition. A number keeps the digits it was written with. -/
inductive Token where
  | identifier (name : String)
  | text (value : String)
  | number (digits : String)
  | boolean (value : Bool)
  | comparison (sign : Comparison)
  | and
  | or
  | not
  | leftParen
  | rightParen
  deriving DecidableEq, Repr, Inhabited

/-- A token as messages show it: its kind, and what it carries in parentheses. -/
def Token.describe : Token → String
  | identifier name => "Identifier(" ++ quoted name ++ ")"
  | text value => "StringLiteral(" ++ quoted value ++ ")"
  | number digits => "NumberLiteral(" ++ quoted digits ++ ")"
  | boolean true => "BooleanLiteral(true)"
  | boolean false => "BooleanLiteral(false)"
  | comparison sign => "Compare(" ++ sign.name ++ ")"
  | and => "And"
  | or => "Or"
  | not => "Not"
  | leftParen => "LeftParen"
  | rightParen => "RightParen"

end DatasetHosting.Condition
