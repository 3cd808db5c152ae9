import DatasetHosting.Condition.Evaluation
import DatasetHosting.Condition.Lexer
import DatasetHosting.Condition.Parser

/-!
# Condition/Text — conditions as they stand in a catalogue

A rule holds its condition as a text. `compile` reads it, `validate` also refuses identifiers that no
dataset has, and `holds` evaluates it. Each error keeps the text it is about.
-/

namespace DatasetHosting.Condition

/-- Why a text is no condition. -/
inductive CompileError where
  | lexical (error : LexError)
  | grammatical (error : ParseError)
  deriving DecidableEq, Repr

/-- The wording of a compile error. -/
def CompileError.message : CompileError → String
  | lexical error => error.message
  | grammatical error => error.message

/-- What is wrong with a condition text. -/
inductive TextFault where
  | compile (error : CompileError)
  | evaluation (error : EvalError)
  deriving DecidableEq, Repr

/-- The wording of a fault. -/
def TextFault.message : TextFault → String
  | compile error => error.message
  | evaluation error => error.message

/-- **A condition text that cannot be used**, and why. -/
structure TextError where
  /-- The condition text. -/
  source : String
  /-- What is wrong with it. -/
  fault : TextFault
  deriving DecidableEq, Repr

/-- The wording of a text error: the text and its fault. -/
def TextError.message (e : TextError) : String :=
  "invalid expression '" ++ e.source ++ "': " ++ e.fault.message

/-- The tree that a condition text writes. -/
def compile (source : String) : Except CompileError Expr := do
  let ts ← (tokenize source).mapError .lexical
  (parse ts).mapError .grammatical

/-- The names a condition may mention. -/
def knownIdentifiers : List String :=
  ["dataset", "label", "format", "region"]

/-- Whether a condition may mention the name. -/
def isKnownIdentifier (name : String) : Bool :=
  knownIdentifiers.contains name

/-- **Validation**: the text compiles and mentions known identifiers only; else the first unknown one is
named. -/
def validate (source : String) : Except TextError Unit := do
  let e ← (compile source).mapError fun error => ⟨source, .compile error⟩
  match e.identifiers.find? (!isKnownIdentifier ·) with
  | some name => .error ⟨source, .evaluation (.unknownIdentifier name)⟩
  | none => .ok ()

/-- The value of a condition text over some attributes. -/
def holds (attributes : Attributes) (source : String) : Except TextError Bool := do
  let e ← (compile source).mapError fun error => ⟨source, .compile error⟩
  (e.eval attributes).mapError fun error => ⟨source, .evaluation error⟩

end DatasetHosting.Condition
