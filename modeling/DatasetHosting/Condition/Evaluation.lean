import DatasetHosting.Condition.Expr
import DatasetHosting.Text.Whole

/-!
# Condition/Evaluation — what a condition says of some attributes

Attribute values are texts. Two values that are both signed whole numbers of 64 bits compare as numbers,
any other two by their code points. A connective looks at its right side only if the left side leaves
the result open.
-/

namespace DatasetHosting.Condition

open DatasetHosting.Text

/-- Named attribute values. The first value under a name counts. -/
abbrev Attributes := List (String × String)

/-- Why a condition has no value: it mentions an attribute that is not there. -/
inductive EvalError where
  | unknownIdentifier (name : String)
  deriving DecidableEq, Repr

/-- The wording of an evaluation error. -/
def EvalError.message : EvalError → String
  | unknownIdentifier name => s!"unknown identifier '{name}'"

/-- The order of two values: of the numbers if both are numbers, of the texts otherwise. -/
def compareValues (left right : String) : Ordering :=
  match readInt64? left.toList, readInt64? right.toList with
  | some l, some r => compare l r
  | _, _ => compare left right

/-- The value of an operand. -/
def Operand.value (attributes : Attributes) : Operand → Except EvalError String
  | literal value => .ok value
  | identifier name =>
    match attributes.lookup name with
    | some value => .ok value
    | none => .error (.unknownIdentifier name)

/-- **The value of a condition.** Operands and conditions are looked at from left to right. -/
def Expr.eval (attributes : Attributes) : Expr → Except EvalError Bool
  | comparison sign left right => do
    let l ← left.value attributes
    let r ← right.value attributes
    return sign.holds (compareValues l r)
  | and left right => do
    if ← left.eval attributes then right.eval attributes else return false
  | or left right => do
    if ← left.eval attributes then return true else right.eval attributes
  | not inner => do
    return !(← inner.eval attributes)
  | boolean value => .ok value

end DatasetHosting.Condition
