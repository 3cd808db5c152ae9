import DatasetHosting.Condition.Token

/-!
# Condition/Expr — conditions as trees

A condition compares two operands, or combines conditions. The identifiers of a condition are listed
from left to right, repetitions included.
-/

namespace DatasetHosting.Condition

/-- One side of a comparison. Numbers and quoted texts are both literals. -/
inductive Operand where
  | identifier (name : String)
  | literal (value : String)
  deriving DecidableEq, Repr, Inhabited

/-- A condition. -/
inductive Expr where
  | comparison (sign : Comparison) (left right : Operand)
  | and (left right : Expr)
  | or (left right : Expr)
  | not (inner : Expr)
  | boolean (value : Bool)
  deriving DecidableEq, Repr, Inhabited

/-- The identifier an operand is, if it is one. -/
def Operand.identifiers : Operand → List String
  | identifier name => [name]
  | literal _ => []

/-- The identifiers of a condition, from left to right. -/
def Expr.identifiers : Expr → List String
  | comparison _ left right => left.identifiers ++ right.identifiers
  | and left right => left.identifiers ++ right.identifiers
  | or left right => left.identifiers ++ right.identifiers
  | not inner => inner.identifiers
  | boolean _ => []

end DatasetHosting.Condition
