/-!
# Document/Json/Basic — JSON values

Values keep the order and the repetitions of object entries. Two things that the notation can write are
kept apart because some readers refuse them: a text with half of a surrogate pair, and a number with a
fraction or an exponent.
-/

namespace DatasetHosting

/-- A number as it is written. -/
inductive JsonNumber where
  /-- Digits only. -/
  | whole (negative : Bool) (magnitude : Nat)
  /-- With a fraction or an exponent: the digits before and behind the point, and a power of ten. -/
  | scaled (negative : Bool) (whole decimals : List Char) (exponent : Int)
  deriving DecidableEq, Repr, Inhabited

/-- The text of a JSON string, `none` if an escape in it names half of a surrogate pair alone. -/
abbrev JsonText := Option String

/-- A JSON value. -/
inductive Json where
  | null
  | boolean (value : Bool)
  | number (value : JsonNumber)
  | text (value : JsonText)
  | list (items : List Json)
  | object (entries : List (JsonText × Json))
  deriving Repr, Inhabited

namespace Json

/-- A string. -/
def string (value : String) : Json := .text (some value)

/-- A natural number. -/
def natural (value : Nat) : Json := .number (.whole false value)

/-- A value that may be missing, as `null` if it is. -/
def optional {α : Type} (encode : α → Json) : Option α → Json
  | some value => encode value
  | none => .null

/-- An object with the given fields. -/
def record (fields : List (String × Json)) : Json :=
  .object (fields.map fun (name, value) => (some name, value))

end Json

end DatasetHosting
